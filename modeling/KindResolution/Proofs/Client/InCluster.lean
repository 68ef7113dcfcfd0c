import KindResolution.Environment
import KindResolution.Proofs.Client.Refusals
import KindResolution.Proofs.Text.Trim

/-!
# Configurations of programs in a cluster

What is found in an environment, by the bytes of its variables and files, and what a configuration is
that a program inside of a cluster loads from there: `Config.inCluster_eq_ok_iff`. Its address always
names a server to connect to securely, so that a client is built for it unless the token does not fit
into a header field, and it is the same whatever is said for programs outside of a cluster
(`Config.usable_of_loadedInCluster`).
-/

namespace KindResolution

open Http Text

namespace Environment

/-- A variable has a text as its value: its bytes are those of the text. -/
def Sets (e : Environment) (name value : String) : Prop :=
  Entries.find? name e.settings = some value.toUTF8

/-- A file holds a text: its bytes are those of the text. -/
def Holds (e : Environment) (path content : String) : Prop :=
  Entries.find? path e.files = some content.toUTF8

/-- Two environments are equal but for the values of some variables. -/
structure EqualBut (names : List String) (e e' : Environment) : Prop where
  settings : ∀ name ∉ names, Entries.find? name e.settings = Entries.find? name e'.settings
  files : ∀ path, Entries.find? path e.files = Entries.find? path e'.files

/-- Bytes are those of the text that they are read as. -/
lemma fromUTF8?_eq_some_iff {bytes : ByteArray} {s : String} :
    String.fromUTF8? bytes = some s ↔ bytes = s.toUTF8 := by
  unfold String.fromUTF8?
  constructor
  · intro read
    split at read
    · cases read
      rfl
    · cases read
  · rintro rfl
    exact dif_pos s.isValidUTF8

/-- A setting is a variable that is set and not empty. -/
lemma setting?_eq_some_iff {e : Environment} {name value : String} :
    e.setting? name = some value ↔ e.Sets name value := by
  unfold setting? Sets
  cases Entries.find? name e.settings with
  | none => simp
  | some bytes => simpa using fromUTF8?_eq_some_iff

/-- What is read of a file is the text that it holds without the blank characters around it. -/
lemma readFile_eq_ok_iff {e : Environment} {path s : String} :
    e.readFile path = .ok s ↔ ∃ content, e.Holds path content ∧ Trimmed content s := by
  unfold readFile Holds
  cases Entries.find? path e.files with
  | none => simp
  | some bytes =>
    dsimp only
    cases read : String.fromUTF8? bytes with
    | none =>
      simp only [Option.some.injEq, ← fromUTF8?_eq_some_iff, read]
      simp
    | some content =>
      simp only [Option.some.injEq, ← fromUTF8?_eq_some_iff, read, Except.ok.injEq, trim_eq_iff]
      simp

/-- The address of a server is that of a secure connection. -/
lemma exists_serverAddress_eq (host number : String) :
    ∃ rest, serverAddress host number = "https://" ++ rest := by
  unfold serverAddress
  split
  · exact ⟨"[" ++ host ++ "]:" ++ number, by simp [← String.toList_inj]⟩
  · exact ⟨host ++ ":" ++ number, by simp [← String.toList_inj]⟩

/-- The address of the server is made of the two settings that name it. -/
lemma serverAddress?_eq_some_iff {e : Environment} {address : String} :
    e.serverAddress? = some address ↔
      ∃ host number, e.Sets hostVariable host ∧ e.Sets listenVariable number ∧
        serverAddress host number = address := by
  simp only [serverAddress?, ← setting?_eq_some_iff, Option.bind_eq_bind, Option.bind_eq_some_iff,
    Option.pure_def, Option.some.injEq]
  constructor
  · rintro ⟨host, isHost, number, isNumber, made⟩
    exact ⟨host, number, isHost, isNumber, made⟩
  · rintro ⟨host, number, isHost, isNumber, made⟩
    exact ⟨host, isHost, number, isNumber, made⟩

end Environment

namespace Config

open Environment

/-- The configuration of a program in a cluster is made of the address of the server that the
variables tell, and of what is read of the two files. -/
lemma inCluster_eq_ok_iff {e : Environment} {c : Config} :
    inCluster e = .ok c ↔
      ∃ address token, e.serverAddress? = some address ∧ Uri.parse address = .ok c.clusterUrl ∧
        e.readFile namespaceFile = .ok c.defaultNamespace ∧ e.readFile tokenFile = .ok token ∧
        c = { clusterUrl := c.clusterUrl, defaultNamespace := c.defaultNamespace
              authToken := some token } := by
  unfold inCluster
  cases e.serverAddress? with
  | none => simp
  | some address =>
    constructor
    · intro loaded
      obtain ⟨_, parsed, behindUrl⟩ := bind_eq_ok_iff.1 loaded
      obtain ⟨_, namespaceRead, behindNamespace⟩ := bind_eq_ok_iff.1 behindUrl
      obtain ⟨token, tokenRead, made⟩ := bind_eq_ok_iff.1 behindNamespace
      cases made
      exact ⟨address, token, rfl, mapError_eq_ok_iff.1 parsed, mapError_eq_ok_iff.1 namespaceRead,
        mapError_eq_ok_iff.1 tokenRead, rfl⟩
    · rintro ⟨_, token, ⟨⟩, parsed, namespaceRead, tokenRead, made⟩
      refine bind_eq_ok_iff.2 ⟨_, mapError_eq_ok_iff.2 parsed, ?_⟩
      refine bind_eq_ok_iff.2 ⟨_, mapError_eq_ok_iff.2 namespaceRead, ?_⟩
      exact bind_eq_ok_iff.2 ⟨_, mapError_eq_ok_iff.2 tokenRead, congrArg Except.ok made.symm⟩

/-- What is said for programs outside of a cluster does not count inside of one. -/
lemma inCluster_congr {e e' : Environment}
    (same : EqualBut [clusterUrlVariable, namespaceVariable] e e') : inCluster e = inCluster e' := by
  have host : e.setting? hostVariable = e'.setting? hostVariable := by
    rw [setting?, setting?, same.settings _ (by decide)]
  have number : e.setting? listenVariable = e'.setting? listenVariable := by
    rw [setting?, setting?, same.settings _ (by decide)]
  have files : e.readFile = e'.readFile := by
    funext path
    rw [readFile, readFile, same.files]
  have address : e.serverAddress? = e'.serverAddress? := by
    rw [serverAddress?, serverAddress?, host, number]
  rw [inCluster, inCluster, address, files]

/-- A configuration is loaded inside of a cluster: it is the one for programs there, which is asked
for, or found because it is looked for there first. -/
inductive LoadedInCluster (e : Environment) (c : Config) : Prop where
  | asked :
    inCluster e = .ok c →
    LoadedInCluster e c
  | found {c'} :
    find e = .ok c →
    inCluster e = .ok c' →
    LoadedInCluster e c

/-- The configuration of the cluster is the first that is found. -/
lemma find_of_inCluster {e : Environment} {c : Config} (loaded : inCluster e = .ok c) :
    find e = .ok c := by
  rw [find, loaded]

/-- A configuration that is loaded in a cluster is that of the cluster. -/
lemma inCluster_of_loadedInCluster {e : Environment} {c : Config} (loaded : c.LoadedInCluster e) :
    inCluster e = .ok c := by
  cases loaded with
  | asked loaded => exact loaded
  | found found loaded =>
    cases found.symm.trans (find_of_inCluster loaded)
    exact loaded

/-- A configuration that is loaded inside of a cluster has a secure address, and clients are built
for it unless its token has a control character. -/
theorem usable_of_loadedInCluster {e : Environment} {c : Config} (loaded : c.LoadedInCluster e) :
    c.clusterUrl.scheme = some "https" ∧ c.clusterUrl.authority ≠ "" ∧
    (∃ content, e.Holds namespaceFile content ∧ Trimmed content c.defaultNamespace) ∧
    (∃ content token, e.Holds tokenFile content ∧ Trimmed content token ∧
      c.authToken = some token ∧
      ∀ codec kind error, Client.build codec kind c = .error error ↔
        HasControlByte token ∧ error = .malformedHeader .invalid) ∧
    (∀ codec kind url, Client.build codec kind c ≠ .error (.incompleteClusterUrl url)) ∧
    ∀ e', EqualBut [clusterUrlVariable, namespaceVariable] e e' →
      find e' = .ok c ∧ c.LoadedInCluster e' := by
  have inside := inCluster_of_loadedInCluster loaded
  obtain ⟨address, token, told, read, namespaceRead, tokenRead, made⟩ := inCluster_eq_ok_iff.1 inside
  obtain ⟨host, number, _, _, rfl⟩ := serverAddress?_eq_some_iff.1 told
  obtain ⟨rest, secure⟩ := exists_serverAddress_eq host number
  rw [secure] at read
  obtain ⟨scheme, authority⟩ := Uri.https_of_parse read
  obtain ⟨content, holds, trimmed⟩ := readFile_eq_ok_iff.1 tokenRead
  have carried : c.authToken = some token := by rw [made]
  have present : c.clusterUrl.scheme ≠ none := by simp [scheme]
  -- of the two reasons for which a client is refused, only the token is left
  have refused : ∀ codec kind error, Client.build codec kind c = .error error ↔
      HasControlByte token ∧ error = .malformedHeader .invalid := by
    intro codec kind error
    exact Client.build_eq_error_iff_of_token present authority carried
  refine ⟨scheme, authority, readFile_eq_ok_iff.1 namespaceRead,
    ⟨content, token, holds, trimmed, carried, refused⟩, ?_, ?_⟩
  · intro codec kind url failed
    cases ((refused codec kind _).1 failed).2
  · intro e' same
    have inside' := (inCluster_congr same).symm.trans inside
    exact ⟨find_of_inCluster inside', .asked inside'⟩

/-- A program in a cluster that reaches its server at an address of the sixth version of the internet
protocol, with some text in the file with the token. A variable names another server. -/
def podEnvironment (tokenText : String) : Environment where
  settings :=
    [(hostVariable, "fd00::1".toUTF8), (listenVariable, "6443".toUTF8),
      (clusterUrlVariable, "http://elsewhere.example".toUTF8)]
  files := [(namespaceFile, "kube-system\n".toUTF8), (tokenFile, tokenText.toUTF8)]

/-- What the program loads, if the token is some text. -/
def podConfig (token : String) : Config where
  clusterUrl := { scheme := some "https", authority := "[fd00::1]:6443" }
  defaultNamespace := "kube-system"
  authToken := some token

/-- The environment of a pod gives the configuration for it. -/
lemma inCluster_podEnvironment {tokenText token : String} (trimmed : trim tokenText = token) :
    inCluster (podEnvironment tokenText) = .ok (podConfig token) := by
  have parsed : Uri.parse "https://[fd00::1]:6443" =
      .ok { scheme := some "https", authority := "[fd00::1]:6443" } := by decide +kernel
  have defaultNamespace : trim "kube-system\n" = "kube-system" := by decide
  refine inCluster_eq_ok_iff.2 ⟨"https://[fd00::1]:6443", token, ?_, parsed, ?_, ?_, rfl⟩
  · exact serverAddress?_eq_some_iff.2 ⟨"fd00::1", "6443", rfl, rfl, by decide⟩
  · exact readFile_eq_ok_iff.2 ⟨"kube-system\n", rfl, trim_eq_iff.1 defaultNamespace⟩
  · exact readFile_eq_ok_iff.2 ⟨tokenText, rfl, trim_eq_iff.1 trimmed⟩

/-- The same program where the variables for other clusters are different ones. -/
def movedEnvironment (tokenText : String) : Environment :=
  { podEnvironment tokenText with
    settings := [(hostVariable, "fd00::1".toUTF8), (listenVariable, "6443".toUTF8),
      (namespaceVariable, "dev".toUTF8)] }

/-- The moved environment differs in the two variables only. -/
lemma equalBut_movedEnvironment (tokenText : String) :
    EqualBut [clusterUrlVariable, namespaceVariable] (podEnvironment tokenText)
      (movedEnvironment tokenText) := by
  refine ⟨?_, fun _ => rfl⟩
  intro name other
  simp only [List.mem_cons, List.not_mem_nil, or_false, not_or] at other
  simp [podEnvironment, movedEnvironment, Entries.find?, Ne.symm other.1, Ne.symm other.2]

/-- A token with a line break behind it can be sent, and one with a line break in it cannot. -/
theorem usable_of_loadedInCluster_pod :
    (podConfig "t0ken").LoadedInCluster (podEnvironment "t0ken\n") ∧
      (podConfig "t0ken").clusterUrl.authority ≠ "" ∧
      find (movedEnvironment "t0ken\n") = .ok (podConfig "t0ken") ∧
      (∀ error, Client.build .typed ⟨"", "v1", "Pod"⟩ (podConfig "t0ken") ≠ .error error) ∧
      Client.build .schemaless ⟨"", "v1", "Pod"⟩ (podConfig "t0\nken") =
        .error (.malformedHeader .invalid) := by
  have plain : (podConfig "t0ken").LoadedInCluster (podEnvironment "t0ken\n") :=
    .asked (inCluster_podEnvironment (by decide))
  have loaded : inCluster (podEnvironment "t0\nken\n") = .ok (podConfig "t0\nken") :=
    inCluster_podEnvironment (by decide)
  have broken : (podConfig "t0\nken").LoadedInCluster (podEnvironment "t0\nken\n") :=
    .found (find_of_inCluster loaded) loaded
  have sendable : ¬ HasControlByte "t0ken" := by
    have bytes : ∀ b ∈ FormEncoding.bytes "t0ken".toList, ¬ IsControlByte b := by
      unfold IsControlByte
      decide +kernel
    rintro ⟨b, member, control⟩
    exact bytes b member control
  obtain ⟨_, authority, _, ⟨_, _, _, _, ⟨⟩, built⟩, _, elsewhere⟩ := usable_of_loadedInCluster plain
  obtain ⟨_, _, _, ⟨_, _, _, _, ⟨⟩, refused⟩, _⟩ := usable_of_loadedInCluster broken
  refine ⟨plain, authority, (elsewhere _ (equalBut_movedEnvironment _)).1, ?_, ?_⟩
  · intro error failed
    exact sendable ((built _ _ _).1 failed).1
  · exact (refused _ _ _).2 ⟨⟨10, by decide, .inl (by decide)⟩, rfl⟩

end Config

end KindResolution
