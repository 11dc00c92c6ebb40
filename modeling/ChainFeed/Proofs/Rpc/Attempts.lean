import ChainFeed.Data.Outcome
import ChainFeed.Proofs.Data.Numbering
import ChainFeed.Proofs.Rpc.Answer
import ChainFeed.Proofs.Rpc.Raw

/-!
# Attempts to make requests

An attempt takes the next number, whether or not the request can be sent and whatever becomes of it.
What it comes to depends on the text of the answer alone, once there is one.
-/

namespace ChainFeed.Rpc

structure Attempt where
  id : UInt64
  method : String
  params : List Value
  /-- The reply, or why there was no request. -/
  outcome : Except String Reply

namespace Attempt

/-- The text of the answer, unless its status refuses the request. -/
def text? (a : Attempt) : Option String :=
  match a.outcome with
  | .ok (.answered status body) =>
    if status = 401 ∨ status = 403 then none else some (Text.lossy body)
  | _ => none

def IsRefused (a : Attempt) : Prop :=
  ∃ status, (status = 401 ∨ status = 403) ∧ (a.outcome = .ok (.brokenOff status) ∨
    ∃ body, a.outcome = .ok (.answered status body))

/-- The attempt has been answered with this result. -/
def Yields (a : Attempt) (result : Value) : Prop := ∃ text ∈ a.text?, HoldsResult text result

def request (remote : Remote) (a : Attempt) : Request :=
  ⟨remote.url, remote.authorization, a.method, callText a.id a.method a.params⟩

section judge
variable {α : Type}

/-- What an attempt comes to, if its result is read in this way. -/
def judge (a : Attempt) (read : Value → Option α) : Except Error α :=
  (a.outcome >>= readReply read).mapError (.queryFailed a.method)

/-- The request failed, and is named as the one that did. -/
def Fails (a : Attempt) (x : Except Error α) : Prop :=
  ∃ reason, x = .error (.queryFailed a.method reason)

variable {a b : Attempt} {read : Value → Option α}

theorem judge_of_text {text : String} (h : a.text? = some text) :
    a.judge read = (readAnswer read text).mapError (.queryFailed a.method) := by
  obtain ⟨id, method, params, outcome⟩ := a
  rcases outcome with reason | _ | status | ⟨status, body⟩
  · cases h
  · cases h
  · cases h
  · by_cases hrefused : status = 401 ∨ status = 403
    · simp [text?, hrefused] at h
    · obtain rfl : Text.lossy body = text := by simpa [text?, hrefused] using h
      rw [not_or] at hrefused
      have hstatus : statusText? status = none := by
        rw [statusText?, if_neg hrefused.1, if_neg hrefused.2]
      simp only [judge, bind, Except.bind, readReply, hstatus]

theorem judge_of_no_text (read : Value → Option α) (h : a.text? = none) :
    a.Fails (a.judge read) := by
  obtain ⟨id, method, params, outcome⟩ := a
  rcases outcome with reason | _ | status | ⟨status, body⟩
  · exact ⟨reason, rfl⟩
  · exact ⟨_, rfl⟩
  · exact ⟨_, rfl⟩
  · have hrefused : status = 401 ∨ status = 403 :=
      Decidable.byContradiction fun hother => by simp [text?, hother] at h
    obtain ⟨reason, hreason⟩ : ∃ reason, statusText? status = some reason := by
      obtain rfl | rfl := hrefused
      · exact ⟨_, rfl⟩
      · exact ⟨_, rfl⟩
    refine ⟨reason, ?_⟩
    simp only [judge, bind, Except.bind, readReply, hreason]
    rfl

theorem judge_eq_ok_iff {r : α} :
    a.judge read = .ok r ↔ ∃ v, a.Yields v ∧ read v = some r := by
  cases htext : a.text? with
  | none =>
    obtain ⟨reason, hreason⟩ := judge_of_no_text read htext
    simp [hreason, Yields, htext]
  | some text =>
    have hyields (v : Value) : a.Yields v ↔ HoldsResult text v := by simp [Yields, htext]
    rw [judge_of_text htext, Outcome.mapError_eq_ok_iff]
    simp only [hyields, readAnswer_eq_ok_iff]

theorem judge_cases (a : Attempt) (read : Value → Option α) :
    (∃ r, a.judge read = .ok r) ∨ a.Fails (a.judge read) := by
  unfold judge Fails
  cases a.outcome >>= readReply read with
  | error reason => exact .inr ⟨reason, rfl⟩
  | ok r => exact .inl ⟨r, rfl⟩

theorem judge_congr (hmethod : a.method = b.method) (htext : a.text? = b.text?)
    (hsome : a.text?.isSome = true) : a.judge read = b.judge read := by
  obtain ⟨text, ha⟩ := Option.isSome_iff_exists.1 hsome
  rw [judge_of_text ha, judge_of_text (htext.symm.trans ha), hmethod]

theorem text?_of_judge {r : α} (h : a.judge read = .ok r) : a.text?.isSome = true := by
  cases htext : a.text? with
  | none =>
    obtain ⟨reason, hreason⟩ := judge_of_no_text read htext
    rw [hreason] at h
    cases h
  | some text => rfl

theorem text?_of_isRefused (h : a.IsRefused) : a.text? = none := by
  obtain ⟨status, hstatus, h | ⟨body, h⟩⟩ := h
  · simp [text?, h]
  · simp [text?, h, hstatus]

end judge

theorem yields_of_answered {a : Attempt} {status : Nat} {body : List UInt8} {v : Value}
    (h : a.outcome = .ok (.answered status body)) (hstatus : ¬ (status = 401 ∨ status = 403))
    (hv : HoldsResult (Text.lossy body) v) : a.Yields v := by
  refine ⟨Text.lossy body, ?_, hv⟩
  rw [Option.mem_def, text?, h]
  exact if_neg hstatus

end Attempt

namespace Link

/-- The next attempt, if it is for this call. -/
def attempt (l : Link) (method : String) (params : List Value) : Attempt :=
  ⟨l.nextId, method, params, (Link.send method params l).1⟩

@[simp] theorem attempt_method (l : Link) (method : String) (params : List Value) :
    (l.attempt method params).method = method := rfl

def after (l : Link) (a : Attempt) : Link := (Link.send a.method a.params l).2

/-- The attempts, one after the other, lead from a link to another. -/
inductive Makes : Link → List Attempt → Link → Prop
  | nil (l : Link) : l.Makes [] l
  | cons {l l' : Link} {method : String} {params : List Value} {as : List Attempt}
      (h : (l.after (l.attempt method params)).Makes as l') :
      l.Makes (l.attempt method params :: as) l'

section
variable {l l' l'' : Link} {as bs : List Attempt}

theorem Makes.one (l : Link) (method : String) (params : List Value) :
    l.Makes [l.attempt method params] (l.after (l.attempt method params)) :=
  .cons (.nil _)

theorem Makes.append (ha : l.Makes as l') (hb : l'.Makes bs l'') : l.Makes (as ++ bs) l'' := by
  induction ha with
  | nil => exact hb
  | cons _ ih => exact .cons (ih hb)

theorem attempt_outcome (hl : l.remote.fault? = none) (method : String) (params : List Value) :
    (l.attempt method params).outcome =
      .ok (l.server l.sent.length ((l.attempt method params).request l.remote)) := by
  unfold attempt send
  rw [hl]
  rfl

theorem after_server (l : Link) (a : Attempt) : (l.after a).server = l.server := by
  unfold after send
  cases l.remote.fault? <;> rfl

theorem after_remote (l : Link) (a : Attempt) : (l.after a).remote = l.remote := by
  unfold after send
  cases l.remote.fault? <;> rfl

theorem after_nextId (l : Link) (a : Attempt) : (l.after a).nextId = l.nextId + 1 := by
  unfold after send
  cases l.remote.fault? <;> rfl

theorem after_sent (l : Link) (method : String) (params : List Value) :
    (l.after (l.attempt method params)).sent = l.sent ++
      if l.remote.fault? = none then [(l.attempt method params).request l.remote] else [] := by
  unfold after send
  cases l.remote.fault? with
  | none => rfl
  | some text => exact (List.append_nil _).symm

/-- Attempts are numbered one by one, and each takes its number. -/
theorem Makes.ids (h : l.Makes as l') {first : Nat} (hfirst : l.nextId = first.toUInt64) :
    as.map Attempt.id = wordsFrom first as.length := by
  induction h generalizing first with
  | nil => rfl
  | @cons l l' method params as _ ih =>
    have hnext : (l.after (l.attempt method params)).nextId = (first + 1).toUInt64 := by
      rw [after_nextId, hfirst, toUInt64_succ]
    rw [List.map_cons, ih hnext, List.length_cons, wordsFrom_succ, ← hfirst]
    rfl

/-- What is sent are the attempts, if there are requests to the address at all. -/
theorem Makes.sent (h : l.Makes as l') : l'.sent = l.sent ++
    if l.remote.fault? = none then as.map (Attempt.request l.remote) else [] := by
  induction h with
  | nil => rw [List.map_nil, ite_self, List.append_nil]
  | @cons l l' method params as _ ih =>
    rw [ih, after_sent, after_remote, List.append_assoc, List.map_cons]
    split
    · rw [List.singleton_append]
    · rw [List.nil_append]

end

end Link

/-- A call is one attempt, judged by what it is to be read as. -/
theorem call_eq {α : Type} (method : String) (params : List Value) (read : Value → Option α)
    (l : Link) : call method params read l =
      ((l.attempt method params).judge read, l.after (l.attempt method params)) := by
  simp only [call, bind, StateT.bind, Attempt.judge, Link.after, Link.attempt]
  generalize Link.send method params l = sent
  rfl

theorem callRaw_eq {α : Type} (method : String) (params : List Value) (r : Consensus.Reader α)
    (l : Link) : callRaw method params r l =
      ((l.attempt method params).judge Value.asText? >>= fun text =>
        (readRaw r text).mapError fun fault => .queryFailed method fault.message,
        l.after (l.attempt method params)) := by
  simp only [callRaw, bind, StateT.bind, call_eq]
  cases (l.attempt method params).judge Value.asText? <;> rfl

end ChainFeed.Rpc
