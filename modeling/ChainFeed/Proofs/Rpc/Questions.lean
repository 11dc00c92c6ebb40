import ChainFeed.Proofs.Rpc.Attempts

/-!
# Questions to remote nodes

Every question comes to attempts to make a request: one, or two for a block, whose hash has to be
known first. The last attempt decides what the question comes to.
-/

namespace ChainFeed.Rpc

inductive Question where
  | network
  | best
  | block (height : Height)
  | mempool
  | transaction (id : Txid)
  deriving DecidableEq

namespace Question

abbrev Answer : Question → Type
  | network => Network
  | best => Stamp
  | block _ => Block
  | mempool => List Txid
  | transaction _ => Transaction

def ask : (q : Question) → Exchange (Except Error q.Answer)
  | network => backend.network
  | best => backend.best
  | block height => backend.block height
  | mempool => backend.mempool
  | transaction id => backend.transaction id

def method : Question → String
  | network | best => "getblockchaininfo"
  | block _ => "getblockhash"
  | mempool => "getrawmempool"
  | transaction _ => "getrawtransaction"

def params : Question → List Value
  | network | best | mempool => []
  | block height => [.int height.toNat]
  | transaction id => [.text id.render, .bool false]

/-- The method of the request that is answered with what was asked for. -/
def lastMethod : Question → String
  | block _ => "getblock"
  | q => q.method

def first (q : Question) (l : Link) : Attempt := l.attempt q.method q.params

@[simp] theorem first_method (q : Question) (l : Link) : (q.first l).method = q.method := rfl

/-- The attempt to get the block of a hash, after one to get the hash. -/
def second (l : Link) (a : Attempt) (hash : BlockHash) : Attempt :=
  (l.after a).attempt "getblock" [.text hash.render, .int 0]

@[simp] theorem second_method (l : Link) (a : Attempt) (hash : BlockHash) :
    (second l a hash).method = "getblock" := rfl

def following : Question → Link → Attempt → List Attempt
  | block _, l, a =>
    match a.judge digestOf? with
    | .ok hash => [second l a hash]
    | .error _ => []
  | _, _, _ => []

def attempts (q : Question) (l : Link) : List Attempt := q.first l :: q.following l (q.first l)

/-- The result stands for this answer. Blocks and transactions are the hexadecimal text of their
serialization. -/
def Accepts : (q : Question) → Value → q.Answer → Prop
  | network, v, n => ∃ info, ChainInfo.ofValue? v = some info ∧ networkOf? info.chain = some n
  | best, v, s => ∃ info, ChainInfo.ofValue? v = some info ∧ s = ⟨info.blocks, info.best⟩
  | block _, v, b => ∃ text, v = .text text ∧ b.Fits ∧ Hex.decode? text.toList = some b.encode
  | mempool, v, ids => Value.asList? digestOf? v = some ids
  | transaction _, v, t =>
    ∃ text, v = .text text ∧ t.Fits ∧ Hex.decode? text.toList = some t.encode

def final : (q : Question) → Attempt → Except Error q.Answer
  | network, a => a.judge ChainInfo.ofValue? >>= fun info =>
    (readNetwork info.chain).mapError (.queryFailed a.method)
  | best, a => (a.judge ChainInfo.ofValue?).map fun info => ⟨info.blocks, info.best⟩
  | block _, a => a.judge Value.asText? >>= fun text =>
    (readRaw Block.reader text).mapError fun fault => .queryFailed a.method fault.message
  | mempool, a => a.judge (Value.asList? digestOf?)
  | transaction _, a => a.judge Value.asText? >>= fun text =>
    (readRaw Transaction.reader text).mapError fun fault => .queryFailed a.method fault.message

variable {q : Question} {l l' : Link}

theorem eq_block_or (q : Question) :
    (∃ height, q = .block height) ∨ ∀ height, q ≠ .block height := by
  cases q with
  | block height => exact .inl ⟨height, rfl⟩
  | _ => exact .inr (by rintro _ ⟨⟩)

theorem method_of_not_block (h : ∀ height, q ≠ .block height) : q.method = q.lastMethod := by
  cases q with
  | block height => exact absurd rfl (h height)
  | _ => rfl

theorem ask_of_not_block (h : ∀ height, q ≠ .block height) :
    q.ask l = (q.final (q.first l), l.after (q.first l)) := by
  cases q with
  | block height => exact absurd rfl (h height)
  | mempool => exact call_eq _ _ _ l
  | best =>
    simp only [ask, backend, askBest, askChain, bind, StateT.bind, call_eq]
    rfl
  | network =>
    simp only [ask, backend, askNetwork, askChain, bind, StateT.bind, call_eq, final, first, method,
      params, Link.attempt_method]
    cases (l.attempt "getblockchaininfo" []).judge ChainInfo.ofValue? <;> rfl
  | transaction id => exact callRaw_eq _ _ _ l

theorem ask_block (height : Height) (l : Link) : (block height).ask l =
    match ((block height).first l).judge digestOf? with
    | .error e => (.error e, l.after ((block height).first l))
    | .ok hash => ((block height).final (second l ((block height).first l) hash),
        (l.after ((block height).first l)).after (second l ((block height).first l) hash)) := by
  simp only [ask, backend, askBlock, bind, StateT.bind, call_eq, first, method, params]
  cases (l.attempt "getblockhash" [.int height.toNat]).judge digestOf? with
  | error e => rfl
  | ok hash =>
    dsimp only
    rw [callRaw_eq]
    rfl

section
variable {a b : Attempt}

theorem raw_eq_ok_iff {α : Type} {r : Consensus.Reader α} {write : α → List UInt8}
    {fits : α → Prop} (hr : r.Inverts write fits) {f : RawFault → Error} {x : α} :
    (a.judge Value.asText? >>= fun text => (readRaw r text).mapError f) = .ok x ↔
      ∃ v, a.Yields v ∧ ∃ text, v = .text text ∧ fits x ∧
        Hex.decode? text.toList = some (write x) := by
  simp only [Outcome.bind_eq_ok_iff, Attempt.judge_eq_ok_iff, Outcome.mapError_eq_ok_iff,
    readRaw_eq_ok_iff hr]
  constructor
  · rintro ⟨text, ⟨v, hv, htext⟩, hx⟩
    cases v with
    | text s =>
      obtain rfl : s = text := Option.some.inj htext
      exact ⟨_, hv, s, rfl, hx⟩
    | _ => cases htext
  · rintro ⟨_, hv, text, rfl, hx⟩
    exact ⟨text, ⟨_, hv, rfl⟩, hx⟩

theorem readNetwork_eq_ok_iff {chain : String} {n : Network} :
    readNetwork chain = .ok n ↔ networkOf? chain = some n := by
  unfold readNetwork
  cases networkOf? chain <;> simp

/-- The last attempt comes to an answer exactly if it is answered with a result that stands for
it. -/
theorem final_eq_ok_iff {r : q.Answer} :
    q.final a = .ok r ↔ ∃ v, a.Yields v ∧ q.Accepts v r := by
  cases q with
  | network =>
    simp only [final, Accepts, Outcome.bind_eq_ok_iff, Outcome.mapError_eq_ok_iff,
      readNetwork_eq_ok_iff, Attempt.judge_eq_ok_iff]
    constructor
    · rintro ⟨info, ⟨v, hv, hinfo⟩, hn⟩
      exact ⟨v, hv, info, hinfo, hn⟩
    · rintro ⟨v, hv, info, hinfo, hn⟩
      exact ⟨info, ⟨v, hv, hinfo⟩, hn⟩
  | best =>
    simp only [final, Accepts, Outcome.map_eq_ok_iff, Attempt.judge_eq_ok_iff]
    constructor
    · rintro ⟨info, ⟨v, hv, hinfo⟩, rfl⟩
      exact ⟨v, hv, info, hinfo, rfl⟩
    · rintro ⟨v, hv, info, hinfo, rfl⟩
      exact ⟨info, ⟨v, hv, hinfo⟩, rfl⟩
  | block height => exact raw_eq_ok_iff Block.inverts_reader
  | mempool => exact Attempt.judge_eq_ok_iff
  | transaction id => exact raw_eq_ok_iff Transaction.inverts_reader

/-- What is read out of a result in a further step fails under the name of the attempt as well. -/
theorem andThen_cases {ε α β : Type} {read : Value → Option α} {f : α → Except ε β}
    (say : ε → String) :
    let x := a.judge read >>= fun r => (f r).mapError fun e => .queryFailed a.method (say e)
    (∃ r, x = .ok r) ∨ a.Fails x := by
  obtain ⟨r, hr⟩ | ⟨reason, hreason⟩ := a.judge_cases read
  · rw [hr]
    dsimp only [bind, Except.bind]
    cases f r with
    | ok b => exact .inl ⟨b, rfl⟩
    | error e => exact .inr ⟨say e, rfl⟩
  · exact .inr ⟨reason, by rw [hreason]; rfl⟩

theorem final_cases (q : Question) (a : Attempt) :
    (∃ r, q.final a = .ok r) ∨ a.Fails (q.final a) := by
  cases q with
  | network => exact andThen_cases id
  | best =>
    obtain ⟨info, hinfo⟩ | ⟨reason, hreason⟩ := a.judge_cases ChainInfo.ofValue?
    · exact .inl ⟨_, by rw [final, hinfo]; rfl⟩
    · exact .inr ⟨reason, by rw [final, hreason]; rfl⟩
  | block height => exact andThen_cases RawFault.message
  | mempool => exact a.judge_cases _
  | transaction id => exact andThen_cases RawFault.message

theorem final_congr (q : Question) (hmethod : a.method = b.method) (htext : a.text? = b.text?)
    (hsome : a.text?.isSome = true) : q.final a = q.final b := by
  cases q <;> simp only [final, Attempt.judge_congr hmethod htext hsome, hmethod]

end

section
variable {height : Height} {hash : BlockHash} {e : Error}

theorem attempts_of_not_block (h : ∀ height, q ≠ .block height) :
    q.attempts l = [q.first l] := by
  cases q with
  | block height => exact absurd rfl (h height)
  | _ => rfl

theorem attempts_of_hash (h : ((block height).first l).judge digestOf? = .ok hash) :
    (block height).attempts l =
      [(block height).first l, second l ((block height).first l) hash] := by
  rw [attempts, following, h]

theorem attempts_of_no_hash (h : ((block height).first l).judge digestOf? = .error e) :
    (block height).attempts l = [(block height).first l] := by
  rw [attempts, following, h]

theorem ask_of_hash (h : ((block height).first l).judge digestOf? = .ok hash) :
    (block height).ask l = ((block height).final (second l ((block height).first l) hash),
      (l.after ((block height).first l)).after (second l ((block height).first l) hash)) := by
  rw [ask_block, h]

theorem ask_of_no_hash (h : ((block height).first l).judge digestOf? = .error e) :
    (block height).ask l = (.error e, l.after ((block height).first l)) := by
  rw [ask_block, h]

end

theorem makes_first (q : Question) (l : Link) :
    l.Makes [q.first l] (l.after (q.first l)) := by
  apply Link.Makes.one

theorem makes_second (l : Link) (a : Attempt) (hash : BlockHash) :
    (l.after a).Makes [second l a hash] ((l.after a).after (second l a hash)) := by
  apply Link.Makes.one

theorem makes_attempts (q : Question) (l : Link) : l.Makes (q.attempts l) (q.ask l).2 := by
  have hfirst := makes_first q l
  -- The projections go first: `exact` would get past them by comparing all that the links send.
  obtain ⟨height, rfl⟩ | hone := q.eq_block_or
  · cases hhash : ((block height).first l).judge digestOf? with
    | ok hash =>
      rw [attempts_of_hash hhash, ask_of_hash hhash]
      dsimp only
      exact hfirst.append (makes_second l ((block height).first l) hash)
    | error e =>
      rw [attempts_of_no_hash hhash, ask_of_no_hash hhash]
      dsimp only
      exact hfirst
  · rw [attempts_of_not_block hone, ask_of_not_block hone]
    dsimp only
    exact hfirst

/-- The last attempt decides, unless it was for the hash of a block: then that one failed. -/
theorem ask_cases (q : Question) (l : Link) :
    (∃ last, (q.attempts l).getLast? = some last ∧ last.method = q.lastMethod ∧
      (q.ask l).1 = q.final last) ∨
    q.attempts l = [q.first l] ∧ (q.first l).method ≠ q.lastMethod ∧
      (q.first l).Fails (q.ask l).1 := by
  obtain ⟨height, rfl⟩ | hone := q.eq_block_or
  · obtain ⟨hash, hhash⟩ | ⟨reason, hreason⟩ := ((block height).first l).judge_cases digestOf?
    · refine .inl ⟨second l ((block height).first l) hash, ?_, rfl, ?_⟩
      · rw [attempts_of_hash hhash]
        rfl
      · rw [ask_of_hash hhash]
    · refine .inr ⟨attempts_of_no_hash hreason, ?_, reason, ?_⟩
      · exact (by decide : "getblockhash" ≠ "getblock")
      · rw [ask_of_no_hash hreason]
  · rw [attempts_of_not_block hone, ask_of_not_block hone]
    exact .inl ⟨_, rfl, method_of_not_block hone, rfl⟩

section
variable {height : Height} {hash : BlockHash} {v : Value}

theorem attempts_of_yields (hv : ((block height).first l).Yields v)
    (hhash : digestOf? v = some hash) :
    (block height).attempts l =
      [(block height).first l, second l ((block height).first l) hash] := by
  apply attempts_of_hash
  exact Attempt.judge_eq_ok_iff.2 ⟨v, hv, hhash⟩

theorem attempts_of_yields_none
    (h : ∀ v, ((block height).first l).Yields v → digestOf? v = none) :
    (block height).attempts l = [(block height).first l] := by
  obtain ⟨hash, hhash⟩ | ⟨reason, hreason⟩ := ((block height).first l).judge_cases digestOf?
  · obtain ⟨v, hv, hsome⟩ := Attempt.judge_eq_ok_iff.1 hhash
    rw [h v hv] at hsome
    cases hsome
  · exact attempts_of_no_hash hreason

end

theorem final_fails_of_no_text {a : Attempt} (q : Question) (h : a.text? = none) :
    a.Fails (q.final a) := by
  obtain ⟨r, hr⟩ | hfails := q.final_cases a
  · obtain ⟨v, ⟨text, htext, _⟩, _⟩ := final_eq_ok_iff.1 hr
    rw [h] at htext
    cases htext
  · exact hfails

/-- A refused attempt is the last one. -/
theorem fails_of_isRefused {a : Attempt} (q : Question) (l : Link) (ha : a ∈ q.attempts l)
    (hrefused : a.IsRefused) : a.Fails (q.ask l).1 := by
  have hnone := Attempt.text?_of_isRefused hrefused
  obtain ⟨height, rfl⟩ | hone := q.eq_block_or
  · cases hhash : ((block height).first l).judge digestOf? with
    | ok hash =>
      rw [attempts_of_hash hhash, List.mem_cons, List.mem_singleton] at ha
      obtain rfl | rfl := ha
      · have hsome := Attempt.text?_of_judge hhash
        rw [hnone] at hsome
        cases hsome
      · rw [ask_of_hash hhash]
        dsimp only
        exact final_fails_of_no_text _ hnone
    | error e =>
      rw [attempts_of_no_hash hhash, List.mem_singleton] at ha
      subst ha
      obtain ⟨reason, hreason⟩ := Attempt.judge_of_no_text digestOf? hnone
      rw [ask_of_no_hash hhash]
      exact ⟨reason, congrArg Except.error (Except.error.inj (hhash.symm.trans hreason))⟩
  · rw [attempts_of_not_block hone, List.mem_singleton] at ha
    rw [ask_of_not_block hone, ← ha]
    exact final_fails_of_no_text q hnone

/-- Only the texts of the answers count: not the address, the numbers or the statuses. -/
theorem ask_congr (q : Question) (l l' : Link)
    (htexts : (q.attempts l').map Attempt.text? = (q.attempts l).map Attempt.text?)
    (hreceived : ∀ last ∈ (q.attempts l).getLast?, last.text?.isSome = true) :
    (q.ask l').1 = (q.ask l).1 := by
  obtain ⟨height, rfl⟩ | hone := q.eq_block_or
  · have hhead : ((block height).first l').text? = ((block height).first l).text? :=
      List.head_eq_of_cons_eq htexts
    have hjudge (hsome : ((block height).first l).text?.isSome = true) :
        ((block height).first l').judge digestOf? = ((block height).first l).judge digestOf? :=
      Attempt.judge_congr (by simp) hhead (by rw [hhead, hsome])
    cases hhash : ((block height).first l).judge digestOf? with
    | ok hash =>
      have hhash' := (hjudge (Attempt.text?_of_judge hhash)).trans hhash
      rw [attempts_of_hash hhash, attempts_of_hash hhash'] at htexts
      rw [attempts_of_hash hhash] at hreceived
      have hsecond : (second l' ((block height).first l') hash).text? =
          (second l ((block height).first l) hash).text? :=
        List.head_eq_of_cons_eq (List.tail_eq_of_cons_eq htexts)
      rw [ask_of_hash hhash, ask_of_hash hhash']
      dsimp only
      apply final_congr _ (by simp) hsecond
      rw [hsecond]
      exact hreceived _ rfl
    | error e =>
      rw [attempts_of_no_hash hhash] at hreceived
      have hhash' := (hjudge (hreceived _ rfl)).trans hhash
      rw [ask_of_no_hash hhash, ask_of_no_hash hhash']
  · rw [attempts_of_not_block hone, attempts_of_not_block hone, List.map_singleton,
      List.map_singleton, List.singleton_inj] at htexts
    rw [attempts_of_not_block hone] at hreceived
    rw [ask_of_not_block hone, ask_of_not_block hone]
    dsimp only
    apply final_congr q (by simp) htexts
    rw [htexts]
    exact hreceived _ rfl

theorem ask_last (q : Question) (l : Link) : ∃ last, (q.attempts l).getLast? = some last ∧
    ((∃ r, (q.ask l).1 = .ok r) ∨ last.Fails (q.ask l).1) ∧
    ∀ r, (q.ask l).1 = .ok r ↔
      last.method = q.lastMethod ∧ ∃ v, last.Yields v ∧ q.Accepts v r := by
  obtain ⟨last, hlast, hmethod, hask⟩ | ⟨hone, hmethod, hfails⟩ := q.ask_cases l
  · refine ⟨last, hlast, ?_, fun r => ?_⟩
    · rw [hask]
      exact q.final_cases last
    · rw [hask, final_eq_ok_iff]
      exact ⟨fun h => ⟨hmethod, h⟩, And.right⟩
  · refine ⟨q.first l, by rw [hone]; rfl, .inr hfails, fun r => ⟨fun hr => ?_, fun h => ?_⟩⟩
    · obtain ⟨reason, hreason⟩ := hfails
      rw [hreason] at hr
      cases hr
    · exact absurd h.1 hmethod

end Question

/-- The attempts for one question after the other. -/
def attemptsAt : List Question → Link → List Attempt
  | [], _ => []
  | q :: questions, l => q.attempts l ++ attemptsAt questions (q.ask l).2

def askAll (questions : List Question) (l : Link) : Link :=
  questions.foldl (fun l q => (q.ask l).2) l

theorem makes_attemptsAt (questions : List Question) (l : Link) :
    l.Makes (attemptsAt questions l) (askAll questions l) := by
  induction questions generalizing l with
  | nil => exact .nil l
  | cons q questions ih => exact (q.makes_attempts l).append (ih _)

/-- All requests to a node are numbered from one in the words of 64 bits, and none is left out: no
number comes back before all have been used, and below that the numbers are 1, 2, 3 and so on. A
question takes one request, or two if it is for a block and the first has been answered with its
hash. It is answered, or fails under the name of its last request: it fails if that one is refused,
and else depends on the text of the answer. -/
theorem requests_are_numbered_and_answers_judged :
    (∀ (remote : Remote) (server : Server) (questions : List Question),
      let start := Link.fresh remote server
      let attempts := attemptsAt questions start
      start.Makes attempts (askAll questions start) ∧
        attempts.map Attempt.id = wordsFrom 1 attempts.length ∧
        ((attempts.map Attempt.id).Nodup ↔ attempts.length ≤ 2 ^ 64) ∧
        (attempts.length < 2 ^ 64 →
          attempts.map (fun a => a.id.toNat) = List.range' 1 attempts.length) ∧
        (askAll questions start).sent =
          if remote.fault? = none then attempts.map (Attempt.request remote) else []) ∧
    ∀ (q : Question) (l : Link),
      l.Makes (q.attempts l) (q.ask l).2 ∧
      ((∀ height, q ≠ .block height) → q.attempts l = [q.first l]) ∧
      (∀ height, q = .block height →
        (∀ v hash, (q.first l).Yields v → digestOf? v = some hash → q.attempts l =
          [q.first l, (l.after (q.first l)).attempt "getblock" [.text hash.render, .int 0]]) ∧
        ((∀ v, (q.first l).Yields v → digestOf? v = none) → q.attempts l = [q.first l])) ∧
      (∀ a ∈ q.attempts l, a.IsRefused → a.Fails (q.ask l).1) ∧
      (∃ last, (q.attempts l).getLast? = some last ∧
        ((∃ r, (q.ask l).1 = .ok r) ∨ last.Fails (q.ask l).1) ∧
        ∀ r, (q.ask l).1 = .ok r ↔
          last.method = q.lastMethod ∧ ∃ v, last.Yields v ∧ q.Accepts v r) ∧
      ∀ l', (q.attempts l').map Attempt.text? = (q.attempts l).map Attempt.text? →
        (∀ last ∈ (q.attempts l).getLast?, last.text?.isSome = true) →
        (q.ask l').1 = (q.ask l).1 := by
  refine ⟨fun remote server questions => ?_, fun q l => ?_⟩
  · intro start attempts
    have hmakes : start.Makes attempts (askAll questions start) := makes_attemptsAt questions start
    have hids : attempts.map Attempt.id = wordsFrom 1 attempts.length := hmakes.ids rfl
    refine ⟨hmakes, hids, ?_, fun hfew => ?_, hmakes.sent.trans (List.nil_append _)⟩
    · rw [hids]
      exact nodup_wordsFrom_iff 1 attempts.length
    · rw [← toNat_wordsFrom (by omega : 1 + attempts.length ≤ 2 ^ 64), ← hids, List.map_map]
      rfl
  · refine ⟨q.makes_attempts l, Question.attempts_of_not_block, ?_, fun a => q.fails_of_isRefused l,
      q.ask_last l, q.ask_congr l⟩
    rintro height rfl
    exact ⟨fun v hash => Question.attempts_of_yields, Question.attempts_of_yields_none⟩

/-- A server that gives these replies, whatever it is asked, and then none. -/
def Server.script (replies : List Reply) : Server := fun n _ => replies.getD n .unanswered

/-- An answer with the hash of a block, and half a character in a field that is passed over. -/
def sampleHashAnswer : List UInt8 :=
  (Json.write (.record [("result", .text Digest.zero.render), ("error", .null),
    ("id", .garbled)])).toUTF8.toList

theorem sampleHashAnswer_holds :
    HoldsResult (Text.lossy sampleHashAnswer) (.text Digest.zero.render) := by
  have htold : ∃ answer ∈ (Json.read? (Text.lossy sampleHashAnswer)).bind Value.asRecord?,
      Value.namedOnce ["result", "error"] answer = true ∧
      (answer.lookup "result").bind Value.asText? = some Digest.zero.render ∧
      ∀ e ∈ answer.lookup "error", e.isNull = true := by
    decide +kernel
  obtain ⟨answer, hanswer, honce, hresult, herror⟩ := htold
  obtain ⟨v, hread, hv⟩ := Option.bind_eq_some_iff.1 hanswer
  obtain ⟨w, hlookup, hw⟩ := Option.bind_eq_some_iff.1 hresult
  obtain rfl := eq_record_of_asRecord? hv
  cases w with
  | text s =>
    obtain rfl : s = Digest.zero.render := Option.some.inj hw
    exact ⟨rfl, .inl ⟨answer, hread, honce, hlookup, herror⟩⟩
  | _ => cases hw

/-- The hash of a block is taken from an answer of status 500. The block itself is then refused with
the hash in hand, and the request after that, which is not answered, has the next number. -/
theorem refused_block_is_followed_by_next_number :
    let remote : Remote := ⟨"http://127.0.0.1:18443", "", ""⟩
    let start := Link.fresh remote
      (.script [.answered 500 sampleHashAnswer, .answered 401 sampleHashAnswer])
    let attempts := attemptsAt [.block 5, .network] start
    remote.fault? = none ∧
      attempts.map Attempt.method = ["getblockhash", "getblock", "getblockchaininfo"] ∧
      attempts.map Attempt.id = [1, 2, 3] ∧
      (askAll [.block 5, .network] start).sent = attempts.map (Attempt.request remote) ∧
      ∃ reason, ((Question.block 5).ask start).1 = .error (.queryFailed "getblock" reason) := by
  intro remote start attempts
  have hsendable : start.remote.fault? = none := by decide +kernel
  obtain ⟨hrun, hquestion⟩ := requests_are_numbered_and_answers_judged
  have hfirst : ((Question.block 5).first start).outcome =
      .ok (.answered 500 sampleHashAnswer) := by
    rw [Question.first, Link.attempt_outcome hsendable]
    rfl
  have hblock := ((hquestion (.block 5) start).2.2.1 5 rfl).1 _ Digest.zero
    (Attempt.yields_of_answered hfirst (by decide) sampleHashAnswer_holds) (by decide +kernel)
  have hsent : (start.after ((Question.block 5).first start)).sent.length = 1 := by
    rw [Question.first, Link.after_sent, if_pos hsendable]
    rfl
  have hsecond : ((start.after ((Question.block 5).first start)).attempt "getblock"
      [.text Digest.zero.render, .int 0]).IsRefused := by
    refine ⟨401, .inl rfl, .inr ⟨sampleHashAnswer, ?_⟩⟩
    rw [Link.attempt_outcome (by rw [Link.after_remote, hsendable]), Link.after_server, hsent]
    rfl
  have hnetwork := (hquestion .network ((Question.block 5).ask start).2).2.1 (by rintro _ ⟨⟩)
  have hattempts : attempts = [(Question.block 5).first start,
      (start.after ((Question.block 5).first start)).attempt "getblock"
        [.text Digest.zero.render, .int 0],
      Question.network.first ((Question.block 5).ask start).2] := by
    change (Question.block 5).attempts start ++
      (Question.network.attempts ((Question.block 5).ask start).2 ++ []) = _
    rw [hblock, hnetwork, List.append_nil]
    rfl
  have hids : attempts.map Attempt.id = wordsFrom 1 attempts.length :=
    (hrun remote start.server [.block 5, .network]).2.1
  have hall : (askAll [.block 5, .network] start).sent =
      if start.remote.fault? = none then attempts.map (Attempt.request remote) else [] :=
    (hrun remote start.server [.block 5, .network]).2.2.2.2
  refine ⟨hsendable, ?_, ?_, hall.trans (if_pos hsendable), ?_⟩
  · rw [hattempts]
    simp [Question.method]
  · rw [hids, hattempts]
    rfl
  · exact (hquestion (.block 5) start).2.2.2.1 _ (by rw [hblock]; simp) hsecond

end ChainFeed.Rpc
