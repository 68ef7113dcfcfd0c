import KindResolution.Cache.History
import KindResolution.Cache.Run
import KindResolution.Cache.Session
import KindResolution.Collection
import KindResolution.ConfigMap
import KindResolution.Environment
import KindResolution.Json.Printer
import KindResolution.Kind.Order
import KindResolution.Proofs.Cache.Assembly
import KindResolution.Proofs.Cache.Codecs
import KindResolution.Proofs.Cache.DeclaredPlaces
import KindResolution.Proofs.Cache.Failures
import KindResolution.Proofs.Cache.Filling
import KindResolution.Proofs.Cache.FirstOutcome
import KindResolution.Proofs.Cache.Keys
import KindResolution.Proofs.Cache.Lists
import KindResolution.Proofs.Cache.Secrecy
import KindResolution.Proofs.Cache.Soundness
import KindResolution.Proofs.Cache.Transparency
import KindResolution.Proofs.Cache.WriteOnce
import KindResolution.Proofs.Client.Bodies
import KindResolution.Proofs.Client.Completion
import KindResolution.Proofs.Client.ConfiguredFields
import KindResolution.Proofs.Client.InCluster
import KindResolution.Proofs.Client.ReadBack
import KindResolution.Proofs.Client.Refusals
import KindResolution.Proofs.Collection.Names
import KindResolution.Proofs.Collection.Parameters
import KindResolution.Proofs.Collection.Selectors
import KindResolution.Proofs.DynamicObject.ConfigMaps
import KindResolution.Proofs.DynamicObject.RoundTrip
import KindResolution.Proofs.Http.Headers
import KindResolution.Proofs.Http.Target
import KindResolution.Proofs.Http.WellFormed
import KindResolution.Proofs.Kind.ListKind
import KindResolution.Proofs.KindRecord.Paths
import KindResolution.Proofs.RestMapper.Inheritance
import KindResolution.Proofs.RestMapper.LastWrite
import KindResolution.Proofs.RestMapping.Plurals
import KindResolution.Proofs.Text.FormEncoding
import KindResolution.Proofs.Text.Trim
