import KindResolution.RestMapper
import KindResolution.Scheme

/-!
# Registries

A registry is a scheme together with a mapper. It is one way to resolve objects: a `Resolver` says of
which kind an object is and where a kind is served, and that of a registry asks these two.
-/

namespace KindResolution

/-- A source of kinds and mappings. -/
structure Resolver where
  kindOf : {type : ObjectType} → Object type → Except KindError GroupVersionKind
  mappingOf : GroupKind → String → Except MappingError RestMapping

/-- The kinds of object types, and where kinds are served. -/
structure Registry where
  scheme : Scheme := {}
  mapper : RestMapper := {}

namespace Registry

/-- Adds a built-in type to both. -/
def insertType (r : Registry) (type : ApiType) : Registry :=
  { scheme := r.scheme.insertType type, mapper := r.mapper.insertType type }

/-- The resolver that asks a scheme and a mapper. -/
def resolver (r : Registry) : Resolver where
  kindOf := r.scheme.kindOf
  mappingOf := r.mapper.mappingOf

end Registry

end KindResolution
