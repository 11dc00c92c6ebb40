import ChainFeed.Proofs.Rpc.Handshake

/-!
# Answers that hold a result

An answer is read as a result exactly if it is an envelope that holds one, of the shape that is
asked for and not null, and tells of no error: its error is null or not there.
-/

namespace ChainFeed

namespace Value

variable {α : Type} {read : Value → Option α} {fields : List (String × Value)} {name : String}

theorem asOption?_eq_some_some_iff {v : Value} {a : α} :
    asOption? read v = some (some a) ↔ v.isNull = false ∧ read v = some a := by
  cases v <;> simp [asOption?, isNull]

theorem asOption?_eq_some_none_iff {v : Value} :
    asOption? read v = some none ↔ v.isNull = true := by
  cases v <;> simp [asOption?, isNull]

theorem fieldOr_eq_some_some_iff {a : α} :
    fieldOr fields name none (asOption? read) = some (some a) ↔
      ∃ v, fields.lookup name = some v ∧ v.isNull = false ∧ read v = some a := by
  unfold fieldOr
  cases fields.lookup name with
  | none => simp
  | some v => simp [asOption?_eq_some_some_iff]

theorem fieldOr_eq_some_none_iff (read : Value → Option α) :
    fieldOr fields name none (asOption? read) = some none ↔
      ∀ v ∈ fields.lookup name, v.isNull = true := by
  unfold fieldOr
  cases fields.lookup name with
  | none => simp
  | some v => simp [asOption?_eq_some_none_iff]

end Value

namespace Rpc

/-- The text is an envelope that holds this result, and no error. An envelope names its fields, or
gives them in order. -/
def HoldsResult (text : String) (result : Value) : Prop :=
  result.isNull = false ∧
    ((∃ fields, Json.read? text = some (.record fields) ∧
        Value.namedOnce ["result", "error"] fields = true ∧
        fields.lookup "result" = some result ∧ ∀ e ∈ fields.lookup "error", e.isNull = true) ∨
      Json.read? text = some (.list [result, .null]))

section
variable {α : Type} {read : Value → Option α} {a : α}

theorem Envelope.ofValue?_record_eq_iff {fields : List (String × Value)} :
    Envelope.ofValue? read (.record fields) = some ⟨some a, none⟩ ↔
      Value.namedOnce ["result", "error"] fields = true ∧
      (∃ v, fields.lookup "result" = some v ∧ v.isNull = false ∧ read v = some a) ∧
      ∀ e ∈ fields.lookup "error", e.isNull = true := by
  rw [← Value.fieldOr_eq_some_some_iff,
    ← Value.fieldOr_eq_some_none_iff RemoteError.ofValue?]
  by_cases honce : Value.namedOnce ["result", "error"] fields = true
  · simp [Envelope.ofValue?, honce, Option.bind_eq_some_iff]
  · simp [Envelope.ofValue?, honce]

theorem Envelope.ofValue?_list_eq_iff {items : List Value} :
    Envelope.ofValue? read (.list items) = some ⟨some a, none⟩ ↔
      ∃ v, items = [v, .null] ∧ v.isNull = false ∧ read v = some a := by
  match items with
  | [result, error] =>
    have hpair : Envelope.ofValue? read (.list [result, error]) = some ⟨some a, none⟩ ↔
        Value.asOption? read result = some (some a) ∧
          Value.asOption? RemoteError.ofValue? error = some none := by
      simp [Envelope.ofValue?, Option.bind_eq_some_iff]
    rw [hpair, Value.asOption?_eq_some_some_iff, Value.asOption?_eq_some_none_iff]
    constructor
    · rintro ⟨hresult, herror⟩
      exact ⟨result, by rw [eq_null_of_isNull herror], hresult⟩
    · rintro ⟨v, hitems, hv⟩
      obtain ⟨rfl, rfl⟩ : result = v ∧ error = .null := by simpa using hitems
      exact ⟨hv, rfl⟩
  | [] | [_] | _ :: _ :: _ :: _ => simp [Envelope.ofValue?]

theorem readAnswer_eq_ok_iff {text : String} :
    readAnswer read text = .ok a ↔ ∃ v, HoldsResult text v ∧ read v = some a := by
  have henvelope : readAnswer read text = .ok a ↔
      ∃ v, Json.read? text = some v ∧ Envelope.ofValue? read v = some ⟨some a, none⟩ := by
    rw [← Option.bind_eq_some_iff]
    unfold readAnswer
    rcases (Json.read? text).bind (Envelope.ofValue? read) with _ | ⟨_ | b, _ | e⟩ <;> simp
  rw [henvelope]
  constructor
  · rintro ⟨v, htext, hv⟩
    cases v with
    | record fields =>
      obtain ⟨honce, ⟨result, hresult, hnull, hread⟩, herror⟩ :=
        Envelope.ofValue?_record_eq_iff.1 hv
      exact ⟨result, ⟨hnull, .inl ⟨fields, htext, honce, hresult, herror⟩⟩, hread⟩
    | list items =>
      obtain ⟨result, rfl, hnull, hread⟩ := Envelope.ofValue?_list_eq_iff.1 hv
      exact ⟨result, ⟨hnull, .inr htext⟩, hread⟩
    | _ => cases hv
  · rintro ⟨result, ⟨hnull, ⟨fields, htext, honce, hresult, herror⟩ | htext⟩, hread⟩
    · exact ⟨_, htext, Envelope.ofValue?_record_eq_iff.2
        ⟨honce, ⟨result, hresult, hnull, hread⟩, herror⟩⟩
    · exact ⟨_, htext, Envelope.ofValue?_list_eq_iff.2 ⟨result, rfl, hnull, hread⟩⟩

end

end Rpc

end ChainFeed
