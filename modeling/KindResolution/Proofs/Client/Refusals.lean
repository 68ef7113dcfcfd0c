import KindResolution.Proofs.Client.Completion

/-!
# When no client is built

There are two reasons for which no client is built for a configuration, in the order in which they
count: the address of the cluster lacks a scheme or an authority, or the token does not fit into a
header field (`Config.Refused`, `Client.build_eq_error_iff`). What keeps a token out is a control
character other than the tab among its bytes: `Http.HeaderValue.parse_eq_error_iff`.
-/

namespace KindResolution

open Text Http

namespace Http

/-- A byte that may not stand in a header field: a control character other than the tab. -/
def IsControlByte (b : UInt8) : Prop :=
  b.toNat < 32 ∧ b.toNat ≠ 9 ∨ b.toNat = 127

/-- A character of ASCII is sent as the byte of its number, and the bytes of all others are larger
than these. -/
lemma toNat_of_mem_utf8EncodeChar {c : Char} {b : UInt8} (sent : b ∈ String.utf8EncodeChar c) :
    b.toNat = c.toNat ∧ c.toNat < 128 ∨ 128 ≤ b.toNat ∧ 128 ≤ c.toNat := by
  have number : c.val.toNat = c.toNat := rfl
  unfold String.utf8EncodeChar at sent
  dsimp only at sent
  split at sent
  · left
    rw [List.mem_singleton.1 sent, UInt8.toNat_ofNat']
    omega
  · right
    refine ⟨?_, by omega⟩
    split at sent
    · simp only [List.mem_cons, List.not_mem_nil, or_false] at sent
      rcases sent with rfl | rfl <;> rw [UInt8.toNat_ofNat'] <;> omega
    · split at sent
      · simp only [List.mem_cons, List.not_mem_nil, or_false] at sent
        rcases sent with rfl | rfl | rfl <;> rw [UInt8.toNat_ofNat'] <;> omega
      · simp only [List.mem_cons, List.not_mem_nil, or_false] at sent
        rcases sent with rfl | rfl | rfl | rfl <;> rw [UInt8.toNat_ofNat'] <;> omega

/-- A character is refused exactly if one of its bytes is a control byte. -/
lemma isValueChar_eq_false_iff {c : Char} :
    isValueChar c = false ↔ ∃ b ∈ String.utf8EncodeChar c, IsControlByte b := by
  have tab : c = '\t' ↔ c.toNat = 9 := by
    constructor
    · rintro rfl; rfl
    · intro number
      exact Char.toNat_inj.1 number
  have refused : isValueChar c = false ↔ c.toNat < 32 ∧ c.toNat ≠ 9 ∨ c.toNat = 127 := by
    simp only [isValueChar, Bool.or_eq_false_iff, Bool.and_eq_false_iff, decide_eq_false_iff_not,
      tab, bne_eq_false_iff_eq]
    omega
  rw [refused]
  constructor
  · intro control
    obtain ⟨b, sent⟩ : ∃ b, b ∈ String.utf8EncodeChar c := by
      apply List.exists_mem_of_length_pos
      rw [String.length_utf8EncodeChar]
      exact c.utf8Size_pos
    refine ⟨b, sent, ?_⟩
    have bytes := toNat_of_mem_utf8EncodeChar sent
    unfold IsControlByte
    omega
  · rintro ⟨b, sent, control⟩
    have bytes := toNat_of_mem_utf8EncodeChar sent
    unfold IsControlByte at control
    omega

/-- A text is no value of a header field if there is a control character other than the tab among
its bytes. -/
lemma HeaderValue.parse_eq_error_iff {s : String} {e : HeaderValueError} :
    parse s = .error e ↔ ∃ b ∈ FormEncoding.bytes s.toList, IsControlByte b := by
  have refused : parse s = .error e ↔ ∃ c ∈ s.toList, isValueChar c = false := by
    rw [parse]
    split
    · next all =>
      rw [List.all_eq_true] at all
      constructor
      · intro failed
        cases failed
      · rintro ⟨c, member, odd⟩
        cases (all c member).symm.trans odd
    · next odd =>
      rw [Bool.not_eq_true, List.all_eq_false] at odd
      obtain ⟨c, member, odd⟩ := odd
      cases e
      exact iff_of_true rfl ⟨c, member, Bool.not_eq_true _ ▸ odd⟩
  rw [refused]
  simp only [isValueChar_eq_false_iff, FormEncoding.bytes, List.mem_flatMap]
  constructor
  · rintro ⟨c, member, b, sent, control⟩
    exact ⟨b, ⟨c, member, sent⟩, control⟩
  · rintro ⟨b, ⟨c, member, sent⟩, control⟩
    exact ⟨c, member, b, sent, control⟩

end Http

/-- A token with a byte that may not stand in a header field. -/
def HasControlByte (token : String) : Prop :=
  ∃ b ∈ FormEncoding.bytes token.toList, IsControlByte b

/-- A token is refused exactly if it has a control byte. -/
lemma Client.bearer_eq_error_iff {token : String} {e : HeaderValueError} :
    bearer token = .error e ↔ HasControlByte token := by
  have read : bearer token = .error e ↔ HeaderValue.parse ("Bearer " ++ token) = .error e := by
    rw [bearer]
    cases HeaderValue.parse ("Bearer " ++ token) with
    | error err => simp [Except.map]
    | ok value => simp [Except.map]
  rw [read, HeaderValue.parse_eq_error_iff, HasControlByte, String.toList_append]
  -- the word in front of the token is plain
  have plain : ∀ b ∈ FormEncoding.bytes "Bearer ".toList, ¬ IsControlByte b := by
    unfold IsControlByte
    decide +kernel
  unfold FormEncoding.bytes at plain ⊢
  simp only [List.flatMap_append, List.mem_append, or_and_right, exists_or]
  refine or_iff_right ?_
  rintro ⟨b, member, control⟩
  exact plain b member control

/-- The reasons for which no client is built for a configuration. -/
inductive Config.Refused (config : Config) : ClientError → Prop where
  | incompleteUrl :
    config.clusterUrl.scheme = none ∨ config.clusterUrl.authority = "" →
    config.Refused (.incompleteClusterUrl config.clusterUrl.text)
  | malformedToken {token} :
    config.clusterUrl.scheme ≠ none →
    config.clusterUrl.authority ≠ "" →
    config.authToken = some token →
    HasControlByte token →
    config.Refused (.malformedHeader .invalid)

namespace Client

variable {codec : Codec} {kind : GroupVersionKind} {config : Config}

/-- The header fields are refused exactly if the token has a control byte. -/
lemma headersOf_eq_error_iff {e : ClientError} :
    headersOf config = .error e ↔
      ∃ token, config.authToken = some token ∧ HasControlByte token ∧
        .malformedHeader .invalid = e := by
  rw [headersOf_eq, map_eq_error_iff, ownHeaders]
  cases config.authToken with
  | none => simp
  | some token =>
    rw [map_eq_error_iff, mapError_eq_error_iff]
    simp only [bearer_eq_error_iff, Option.some.injEq, exists_eq_left']
    constructor
    · rintro ⟨⟨⟩, control, rfl⟩
      exact ⟨control, rfl⟩
    · rintro ⟨control, rfl⟩
      exact ⟨.invalid, control, rfl⟩

/-- A client is refused for just these reasons. -/
theorem build_eq_error_iff {e : ClientError} :
    build codec kind config = .error e ↔ config.Refused e := by
  constructor
  · intro failed
    rw [build] at failed
    split at failed
    · next absent =>
      cases failed
      exact .incompleteUrl (.inl absent)
    · next scheme present =>
      split at failed
      · next absent =>
        cases failed
        exact .incompleteUrl (.inr absent)
      · next authority =>
        obtain headers | ⟨_, _, ⟨⟩⟩ := bind_eq_error_iff.1 failed
        obtain ⟨token, carried, control, rfl⟩ := headersOf_eq_error_iff.1 headers
        exact .malformedToken (by simp [present]) authority carried control
  · rintro (absent | ⟨scheme, authority, carried, control⟩)
    · obtain absent | absent := absent
      · rw [build, absent]
      · rw [build]
        cases config.clusterUrl.scheme with
        | none => rfl
        | some scheme => exact if_pos absent
    · obtain ⟨scheme, present⟩ := Option.ne_none_iff_exists'.1 scheme
      have headers := headersOf_eq_error_iff.2 ⟨_, carried, control, rfl⟩
      rw [build, present]
      dsimp only
      rw [if_neg authority, headers]
      rfl

/-- For a cluster whose address has a scheme and an authority, only the token can be refused. -/
lemma build_eq_error_iff_of_token {token : String} {e : ClientError}
    (scheme : config.clusterUrl.scheme ≠ none) (authority : config.clusterUrl.authority ≠ "")
    (carried : config.authToken = some token) :
    build codec kind config = .error e ↔
      HasControlByte token ∧ e = .malformedHeader .invalid := by
  rw [build_eq_error_iff]
  constructor
  · intro refused
    cases refused with
    | incompleteUrl absent => exact absurd absent (not_or.2 ⟨scheme, authority⟩)
    | malformedToken _ _ same control =>
      cases carried.symm.trans same
      exact ⟨control, rfl⟩
  · rintro ⟨control, rfl⟩
    exact .malformedToken scheme authority carried control

/-- A client is built unless it is refused. -/
lemma exists_build_iff : (∃ c, build codec kind config = .ok c) ↔ ∀ e, ¬ config.Refused e := by
  constructor
  · rintro ⟨c, built⟩ e refused
    cases built.symm.trans (build_eq_error_iff.2 refused)
  · intro accepted
    cases built : build codec kind config with
    | ok c => exact ⟨c, rfl⟩
    | error e => exact absurd (build_eq_error_iff.1 built) (accepted e)

end Client

end KindResolution
