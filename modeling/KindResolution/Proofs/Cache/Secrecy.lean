import KindResolution.Cache.Session
import KindResolution.Proofs.Cache.Clients
import KindResolution.Proofs.Cache.Filling
import KindResolution.Proofs.Client.Redaction

/-!
# The secrecy of the token

Two programs do the same on two caches whose configurations differ in the token alone. What they are
told differs in nothing but the credentials in clients and requests, and not even there if the
configuration or the request has credentials of its own: `Registry.token_stays_in_credentials`. The
proof is about two sessions that look alike to somebody with a limited `View`: every action keeps
them alike (`Session.Alike.act`), and so does a whole run (`Session.Alike.replies`).
-/

namespace KindResolution

open Http

/-- A way to look at clients and requests that shows enough of a client to see what bodies it writes
and how the requests look that it completes. -/
structure View where
  client : Client → Client
  request : Request → Request
  encode : ∀ {c c' : Client}, client c = client c' → ∀ value, c.encode value = c'.encode value
  complete : ∀ {c c' : Client}, client c = client c' → ∀ asked,
    (c.completeRequest asked).map request = (c'.completeRequest asked).map request

namespace View

/-- The view that shows everything. -/
def full : View where
  client := id
  request := id
  encode same _ := congrArg (Client.encode · _) same
  complete same _ := congrArg (fun c => (Client.completeRequest c _).map id) same

/-- The view that shows everything but credentials. -/
def redacted : View where
  client := Client.redact
  request := Request.redact
  encode := by
    intro c c' same value
    rw [← c.encode_redact, same, c'.encode_redact]
  complete := by
    intro c c' same asked
    rw [← c.completeRequest_redact, same, c'.completeRequest_redact]

/-- How a reply looks. -/
def reply (v : View) : Reply → Reply
  | .record outcome => .record (outcome.map (Stored.mapClient v.client))
  | .object outcome => .object (outcome.map (Prod.map (Stored.mapClient v.client) id))
  | .body outcome => .body outcome
  | .request outcome => .request (outcome.map v.request)
  | .noClient => .noClient

/-- Clients that are seen alike write the same bodies for objects. -/
lemma encodeObject (v : View) {c c' : Client} (same : v.client c = v.client c') {t : ObjectType}
    (o : Object t) : c.encodeObject o = c'.encodeObject o := by
  unfold Client.encodeObject
  simp only [v.encode same]

end View

namespace Session

/-- Two sessions look alike: so do their caches and the clients they handed out, and the clients that
will be built for the one look like those that will be built for the other. -/
structure Alike (v : View) (w : Collaborators Client) (config : Config) (s s' : Session) :
    Prop where
  cache : s.cache.mapClients v.client config = s'.cache.mapClients v.client config
  clients : s.clients.map v.client = s'.clients.map v.client
  collaborators :
    w.mapClients v.client s.cache.config = w.mapClients v.client s'.cache.config

variable {v : View} {w : Collaborators Client} {config : Config} {s s' : Session}

/-- The clients of a mapped outcome are the mapped clients. -/
lemma clientsOf_map (f : Client → Client) (outcome : Except ResolveError (Stored Client)) :
    clientsOf (outcome.map (Stored.mapClient f)) = (clientsOf outcome).map f := by
  cases outcome <;> rfl

/-- What a client is used for looks the same, if it does for clients that look the same. -/
lemma Alike.use {α : Type} (alike : s.Alike v w config s') (n : Nat) (look : Reply → α)
    {task : Client → Reply}
    (same : ∀ {c c'}, v.client c = v.client c' → look (task c) = look (task c')) :
    look (s.clients[n]?.elim .noClient task) = look (s'.clients[n]?.elim .noClient task) := by
  have clients := congrArg (·[n]?) alike.clients
  simp only [List.getElem?_map] at clients
  cases found : s.clients[n]? with
  | none =>
    rw [found, Option.map_none, eq_comm, Option.map_eq_none_iff] at clients
    rw [clients]
  | some c =>
    rw [found, Option.map_some, eq_comm, Option.map_eq_some_iff] at clients
    obtain ⟨c', found', looks⟩ := clients
    rw [found']
    exact same looks.symm

/-- States that are seen alike answer a call alike. -/
lemma Alike.answer (alike : s.Alike v w config s') (call : CacheCall) :
    (s.cache.answer w call).mapClients v.client config (Stored.mapClient v.client) =
      (s'.cache.answer w call).mapClients v.client config (Stored.mapClient v.client) := by
  rw [← Cache.answer_mapClients, ← Cache.answer_mapClients, alike.cache, alike.collaborators]

/-- States that are seen alike resolve an object with its metadata alike. -/
lemma Alike.resolveWithMetadata (alike : s.Alike v w config s') {t : ObjectType} (o : Object t) :
    (s.cache.resolveWithMetadata w o).mapClients v.client config
        (Prod.map (Stored.mapClient v.client) id) =
      (s'.cache.resolveWithMetadata w o).mapClients v.client config
        (Prod.map (Stored.mapClient v.client) id) := by
  rw [← Cache.resolveWithMetadata_mapClients, ← Cache.resolveWithMetadata_mapClients, alike.cache,
    alike.collaborators]

/-- A record that is handed out leaves sessions alike, if the caches and the records are. -/
lemma Alike.receive (alike : s.Alike v w config s') {cache cache' : Cache Client}
    {outcome outcome' : Except ResolveError (Stored Client)}
    (caches : cache.mapClients v.client config = cache'.mapClients v.client config)
    (outcomes : outcome.map (Stored.mapClient v.client) = outcome'.map (Stored.mapClient v.client))
    (kept : cache.config = s.cache.config) (kept' : cache'.config = s'.cache.config) :
    Alike v w config { cache := cache, clients := s.clients ++ clientsOf outcome }
      { cache := cache', clients := s'.clients ++ clientsOf outcome' } where
  cache := caches
  clients := by
    rw [List.map_append, List.map_append, alike.clients, ← clientsOf_map, ← clientsOf_map, outcomes]
  collaborators := by
    rw [kept, kept']
    exact alike.collaborators

/-- Whatever a program does, it is told the same as far as the view goes, and sessions stay
alike. -/
theorem Alike.act (alike : s.Alike v w config s') (action : Action) :
    v.reply (s.act w action).1 = v.reply (s'.act w action).1 ∧
      (s.act w action).2.Alike v w config (s'.act w action).2 := by
  cases action with
  | ask call =>
    have same := alike.answer call
    have outcomes := congrArg (fun found => found.attempt.outcome) same
    refine ⟨congrArg Reply.record outcomes, ?_⟩
    exact alike.receive (congrArg Resolution.cache same) outcomes (s.cache.config_answer w call)
      (s'.cache.config_answer w call)
  | askWithMetadata t o =>
    have same := alike.resolveWithMetadata o
    have outcomes := congrArg (fun found => found.attempt.outcome) same
    refine ⟨congrArg Reply.object outcomes, ?_⟩
    have records := congrArg (Except.map Prod.fst) outcomes
    simp only [Resolution.mapClients, Attempt.map, map_map, Prod.map_fst] at records
    apply alike.receive (congrArg Resolution.cache same) _
      (s.cache.config_answer w ⟨.resolve, t, o⟩) (s'.cache.config_answer w ⟨.resolve, t, o⟩)
    rw [map_map, map_map]
    exact records
  | encode n value =>
    exact ⟨alike.use n v.reply fun same => congrArg Reply.body (v.encode same value), alike⟩
  | encodeObject n t o =>
    exact ⟨alike.use n v.reply fun same => congrArg Reply.body (v.encodeObject same o), alike⟩
  | complete n asked =>
    exact ⟨alike.use n v.reply fun same => congrArg Reply.request (v.complete same asked), alike⟩

/-- The replies to a whole sequence of actions look the same. -/
theorem Alike.replies (alike : s.Alike v w config s') (actions : List Action) :
    (Session.replies w s actions).map v.reply = (Session.replies w s' actions).map v.reply := by
  induction actions generalizing s s' with
  | nil => rfl
  | cons action rest ih =>
    obtain ⟨same, after⟩ := alike.act action
    simp only [Session.replies, List.map_cons, same, ih after]

/-- What comes of a request that has credentials of its own does not depend on those of the
clients. -/
lemma Alike.reply_eq_of_own (alike : s.Alike .redacted w config s') (actions : List Action)
    {i n : Nat} {asked : Request} (isRequest : actions[i]? = some (.complete n asked))
    (own : asked.headers.values authorization ≠ []) :
    (Session.replies w s actions)[i]? = (Session.replies w s' actions)[i]? := by
  induction actions generalizing s s' i with
  | nil => rfl
  | cons action rest ih =>
    cases i with
    | zero =>
      obtain rfl : action = .complete n asked := Option.some.inj isRequest
      refine congrArg some (alike.use n id ?_)
      intro c c' same
      have completed : c.completeRequest asked = c'.completeRequest asked := by
        rw [← c.completeRequest_redact_of_own own, ← c'.completeRequest_redact_of_own own]
        exact congrArg (Client.completeRequest · asked) same
      exact congrArg Reply.request completed
    | succ i => exact ih (alike.act action).2 isRequest

end Session

/-- The full view shows a reply as it is. -/
lemma View.reply_full (reply : Reply) : View.full.reply reply = reply := by
  cases reply with
  | record outcome => cases outcome <;> rfl
  | object outcome => cases outcome <;> rfl
  | body outcome => rfl
  | request outcome => cases outcome <;> rfl
  | noClient => rfl

namespace Registry

/-- Sessions on caches that know nothing look alike if the clients look alike that are built for
their configurations. -/
lemma alike_of_build (r : Registry) (v : View) {config config' : Config}
    (same : ∀ codec kind, (Client.build codec kind config).map v.client =
      (Client.build codec kind config').map v.client) :
    Session.Alike v r.collaborators config { cache := .ofConfig config }
      { cache := .ofConfig config' } where
  cache := rfl
  clients := rfl
  collaborators := by
    unfold Collaborators.mapClients
    congr 2
    funext codec kind _
    exact same codec kind

/-- The token has no influence on anything but the values of credentials, and on none of those that
are given otherwise. -/
theorem token_stays_in_credentials (r : Registry) (config : Config) {token token' : String}
    (usable : (Client.bearer token).isOk = (Client.bearer token').isOk) (actions : List Action) :
    (config.authorizedBy token).describe = (config.authorizedBy token').describe ∧
      (r.replies (config.authorizedBy token) actions).map View.redacted.reply =
        (r.replies (config.authorizedBy token') actions).map View.redacted.reply ∧
      (HeaderList.values ⟨config.headers⟩ authorization ≠ [] →
        r.replies (config.authorizedBy token) actions =
          r.replies (config.authorizedBy token') actions) ∧
      ∀ (i n : Nat) (asked : Request), actions[i]? = some (.complete n asked) →
        asked.headers.values authorization ≠ [] →
          (r.replies (config.authorizedBy token) actions)[i]? =
            (r.replies (config.authorizedBy token') actions)[i]? := by
  have alike := r.alike_of_build .redacted fun codec kind =>
    (Client.build_authorizedBy codec kind config usable).1
  refine ⟨rfl, alike.replies actions, ?_, ?_⟩
  · intro configured
    have same := r.alike_of_build .full fun codec kind =>
      congrArg (Except.map id) ((Client.build_authorizedBy codec kind config usable).2 configured)
    have replies := same.replies actions
    rw [funext View.reply_full, List.map_id', List.map_id'] at replies
    exact replies
  · intro i n asked isRequest own
    exact alike.reply_eq_of_own actions isRequest own

end Registry

namespace Widgets

/-- A request that asks for widgets with credentials of its own. -/
def ownRequest : Request where
  method := "GET"
  uri := { target := { spelledPath := "/apis/apps/v1/widgets" } }
  headers := { fields := [(authorization, { text := "Basic dTpw" })] }

/-- A program that asks for the record of a widget, and has the widget written and two requests
completed, of which one has credentials of its own. -/
def program : List Action :=
  [.askWithMetadata .dynamic (dynamic kind), .encodeObject 0 .dynamic (dynamic kind),
    .complete 0 { ownRequest with headers := {} }, .complete 0 ownRequest]

end Widgets

/-- Two tokens that can be sent make no difference to a program but for the credentials. -/
theorem Registry.token_stays_in_credentials_widgets :
    (Client.bearer "t0ken").isOk = true ∧ (Client.bearer "secret").isOk = true ∧
      (Widgets.registry.replies (Widgets.config.authorizedBy "t0ken") Widgets.program).map
          View.redacted.reply =
        (Widgets.registry.replies (Widgets.config.authorizedBy "secret") Widgets.program).map
          View.redacted.reply ∧
      (Widgets.registry.replies (Widgets.config.authorizedBy "t0ken") Widgets.program)[3]? =
        (Widgets.registry.replies (Widgets.config.authorizedBy "secret") Widgets.program)[3]? ∧
      Widgets.registry.replies ((Widgets.config.addHeader authorization
          { text := "Basic dTpw" }).authorizedBy "t0ken") Widgets.program =
        Widgets.registry.replies ((Widgets.config.addHeader authorization
          { text := "Basic dTpw" }).authorizedBy "secret") Widgets.program := by
  have sent : (Client.bearer "t0ken").isOk = true := by decide
  have sent' : (Client.bearer "secret").isOk = true := by decide
  have usable := sent.trans sent'.symm
  obtain ⟨_, alike, _, own⟩ := Registry.token_stays_in_credentials Widgets.registry Widgets.config
    usable Widgets.program
  obtain ⟨_, _, configured, _⟩ := Registry.token_stays_in_credentials Widgets.registry
    (Widgets.config.addHeader authorization { text := "Basic dTpw" }) usable Widgets.program
  exact ⟨sent, sent', alike, own 3 0 Widgets.ownRequest rfl (by decide), configured (by decide)⟩

end KindResolution
