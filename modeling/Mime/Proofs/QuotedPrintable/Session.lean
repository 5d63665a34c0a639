import Mathlib.Algebra.GroupWithZero.Nat
import Mime.Proofs.QuotedPrintable.Grammar

/-! Sessions of a decoder that is fed and finished over and over. What it has put out before does
not matter to what it does next (`run_keeping`), and a finish leaves it outside of any escape, so
each stretch between two of them is decoded by itself: `run_finish`. -/

namespace Mime.QuotedPrintable

inductive Call where
  | feed (data : Octets)
  | finish

namespace Call

def data : Call → Octets
  | feed o => o
  | finish => []

def isFinish : Call → Bool
  | feed _ => false
  | finish => true

end Call

/-- What is fed up to the first finish, from each finish up to the next, and after the last. -/
def stretches (calls : List Call) : List Octets :=
  (calls.splitOnP Call.isFinish).map (·.flatMap Call.data)

theorem stretches_feed (o : Octets) (calls : List Call) :
    stretches (.feed o :: calls) = (stretches calls).modifyHead (o ++ ·) := by
  have hs : (Call.feed o :: calls).splitOnP Call.isFinish =
      (calls.splitOnP Call.isFinish).modifyHead (.feed o :: ·) :=
    (List.splitOnP_cons_eq_if_modifyHead ..).trans (if_neg Bool.false_ne_true)
  rw [stretches, hs, stretches]
  cases calls.splitOnP Call.isFinish <;> rfl

theorem stretches_finish (calls : List Call) :
    stretches (.finish :: calls) = [] :: stretches calls := by
  have hs : (Call.finish :: calls).splitOnP Call.isFinish = [] :: calls.splitOnP Call.isFinish :=
    (List.splitOnP_cons_eq_if_modifyHead ..).trans (if_pos rfl)
  rw [stretches, hs]
  rfl

theorem stretches_nil : stretches [] = [[]] := rfl

theorem stretches_feed_nil (calls : List Call) :
    stretches (.feed [] :: calls) = stretches calls := by
  rw [stretches_feed]
  cases stretches calls <;> rfl

theorem stretches_feed_append (a b : Octets) (calls : List Call) :
    stretches (.feed (a ++ b) :: calls) = stretches (.feed a :: .feed b :: calls) := by
  rw [stretches_feed, stretches_feed, stretches_feed, List.modifyHead_modifyHead]
  simp only [Function.comp_def, List.append_assoc]

namespace Decoder

/-- One call. A finish returns all the output that there is after it. -/
def call (d : Decoder) : Call → Decoder
  | .feed data => d.feed data
  | .finish => d.finish

def run (d : Decoder) (calls : List Call) : Decoder := calls.foldl call d

/-- The decoder with output and malformed escapes from before its own. -/
def keeping (d : Decoder) (out : Array UInt8) (n : Nat) : Decoder :=
  ⟨d.state, out ++ d.output, n + d.malformed⟩

section

variable (d : Decoder) (out : Array UInt8) (n : Nat)

theorem plain_keeping (b : UInt8) : (d.keeping out n).plain b = (d.plain b).keeping out n := by
  unfold plain
  split
  · rfl
  · simp [keeping]

theorem giveUp_keeping (after : Octets) :
    (d.keeping out n).giveUp after = (d.giveUp after).keeping out n := by
  have hstart : (⟨.normal, (d.keeping out n).output.push 0x3D, (d.keeping out n).malformed + 1⟩ :
      Decoder) = keeping ⟨.normal, d.output.push 0x3D, d.malformed + 1⟩ out n := by
    simp [keeping, Nat.add_assoc]
  rw [giveUp, hstart, giveUp]
  exact List.foldl_hom (keeping · out n) fun x b => plain_keeping x out n b

theorem step_keeping (b : UInt8) : (d.keeping out n).step b = (d.step b).keeping out n := by
  obtain ⟨state, own, m⟩ := d
  cases state with
  | normal => exact plain_keeping _ out n b
  | sawEquals =>
    simp only [step, keeping]
    split
    · rfl
    · split
      · rfl
      · exact giveUp_keeping ⟨.sawEquals, own, m⟩ out n [b]
  | sawFirst first =>
    simp only [step, keeping]
    split
    · rfl
    · split
      · simp
      · exact giveUp_keeping ⟨.sawFirst first, own, m⟩ out n [first, b]

theorem feed_keeping (data : Octets) : (d.keeping out n).feed data = (d.feed data).keeping out n :=
  List.foldl_hom (keeping · out n) fun x b => step_keeping x out n b

theorem finish_keeping : (d.keeping out n).finish = d.finish.keeping out n := by
  obtain ⟨state, own, m⟩ := d
  cases state with
  | normal => rfl
  | sawEquals => exact giveUp_keeping ⟨.sawEquals, own, m⟩ out n []
  | sawFirst first => exact giveUp_keeping ⟨.sawFirst first, own, m⟩ out n [first]

theorem call_keeping (c : Call) : (d.keeping out n).call c = (d.call c).keeping out n := by
  cases c with
  | feed data => exact feed_keeping d out n data
  | finish => exact finish_keeping d out n

/-- A decoder goes on in the same way, whatever it has put out before. -/
theorem run_keeping (calls : List Call) :
    (d.keeping out n).run calls = (d.run calls).keeping out n :=
  List.foldl_hom (keeping · out n) fun x c => call_keeping x out n c

end

theorem run_append (d : Decoder) (calls more : List Call) :
    d.run (calls ++ more) = (d.run calls).run more := List.foldl_append

/-- At the end of its input a decoder is a new one, but for what it has put out. -/
theorem decodeAll_eq_keeping (data : Octets) :
    decodeAll data = fresh.keeping (decodeAll data).output (decodeAll data).malformed := by
  rw [decodeAll, fresh, finish_feed]
  simp [keeping]

/-- A new decoder, but for what it has put out of stretches that were decoded one by one. -/
def afterAll (ss : List Octets) : Decoder :=
  ⟨.normal, (ss.flatMap decode).toArray, (ss.map fun o => (decodeAll o).malformed).sum⟩

theorem afterAll_cons (data : Octets) (ss : List Octets) :
    afterAll (data :: ss) =
      (afterAll ss).keeping (decodeAll data).output (decodeAll data).malformed := by
  simp [afterAll, keeping, decode]

/-- What has been fed since a finish is decoded together with what is fed up to the next. -/
theorem run_feed_finish (data : Octets) (calls : List Call) :
    (fresh.feed data).run (calls ++ [.finish]) = afterAll (stretches (.feed data :: calls)) := by
  -- `data` is what has been fed of the stretch that is still open. A feed makes it longer, and a
  -- finish decodes it and begins another one.
  induction calls generalizing data with
  | nil =>
    rw [stretches_feed, stretches_nil, List.modifyHead_cons, List.append_nil, afterAll_cons]
    exact decodeAll_eq_keeping data
  | cons c calls ih =>
    cases c with
    | feed o =>
      show ((fresh.feed data).feed o).run (calls ++ [.finish]) = _
      rw [← feed_append, ih, stretches_feed_append]
    | finish =>
      show (decodeAll data).run (calls ++ [.finish]) = _
      rw [decodeAll_eq_keeping, run_keeping, stretches_feed, stretches_finish,
        List.modifyHead_cons, List.append_nil, afterAll_cons, ← stretches_feed_nil calls, ← ih]
      rfl

theorem run_finish_eq_afterAll (calls : List Call) :
    fresh.run (calls ++ [.finish]) = afterAll (stretches calls) := by
  rw [← stretches_feed_nil calls, ← run_feed_finish]
  rfl

/-- Stretches in which nothing is fed leave nothing behind. -/
theorem afterAll_filter (ss : List Octets) : afterAll (ss.filter (· ≠ [])) = afterAll ss := by
  induction ss with
  | nil => rfl
  | cons o ss ih =>
    rw [afterAll_cons]
    cases o with
    | nil =>
      have hnone : decodeAll [] = fresh := rfl
      rw [List.filter_cons_of_neg (by simp), ih, hnone]
      simp [keeping, fresh]
    | cons b o => rw [List.filter_cons_of_pos (by simp), afterAll_cons, ih]

end Decoder

open Decoder

/-- Right after a finish, the output is that of the stretches so far, each decoded by itself, and as
many escapes are counted as malformed as there are in them. What comes then is the same as for a new
decoder, the output and the count being kept. Neither the pieces in which the octets are fed nor a
finish after which nothing was fed make a difference. -/
theorem run_finish (calls : List Call) :
    ((fresh.run (calls ++ [.finish])).output.toList = (stretches calls).flatMap decode ∧
      (fresh.run (calls ++ [.finish])).malformed =
        ((stretches calls).map fun o => (decodeAll o).malformed).sum) ∧
    (∀ more, fresh.run (calls ++ .finish :: more) =
      (fresh.run more).keeping (fresh.run (calls ++ [.finish])).output
        (fresh.run (calls ++ [.finish])).malformed) ∧
    ∀ calls', (stretches calls').filter (· ≠ []) = (stretches calls).filter (· ≠ []) →
      fresh.run (calls' ++ [.finish]) = fresh.run (calls ++ [.finish]) := by
  rw [run_finish_eq_afterAll]
  refine ⟨⟨rfl, rfl⟩, fun more => ?_, fun calls' h => ?_⟩
  · rw [List.append_cons, run_append, run_finish_eq_afterAll, ← run_keeping]
    simp [afterAll, keeping, fresh]
  · rw [run_finish_eq_afterAll, ← afterAll_filter, h, afterAll_filter]

/-- A session that cuts the escapes of `=41=` and finishes within the last of them, and one that
cuts them elsewhere and finishes twice. `41` after it is no escape any more. -/
theorem run_finish_cutEscapes :
    (fresh.run ([.feed [0x3D, 0x34], .feed [0x31, 0x3D], .finish, .feed [0x34, 0x31]] ++
      [.finish])).output.toList = [0x41, 0x3D, 0x34, 0x31] ∧
    (fresh.run ([.feed [0x3D, 0x34], .feed [0x31, 0x3D], .finish, .feed [0x34, 0x31]] ++
      [.finish])).malformed = 1 ∧
    (stretches [.feed [0x3D], .feed [0x34, 0x31, 0x3D], .finish, .finish,
        .feed [0x34, 0x31]]).filter (· ≠ []) =
      (stretches [.feed [0x3D, 0x34], .feed [0x31, 0x3D], .finish,
        .feed [0x34, 0x31]]).filter (· ≠ []) ∧
    fresh.run ([.feed [0x3D], .feed [0x34, 0x31, 0x3D], .finish, .finish, .feed [0x34, 0x31]] ++
        [.finish]) =
      fresh.run ([.feed [0x3D, 0x34], .feed [0x31, 0x3D], .finish, .feed [0x34, 0x31]] ++
        [.finish]) := by
  obtain ⟨⟨hout, hcount⟩, -, hsame⟩ :=
    run_finish [.feed [0x3D, 0x34], .feed [0x31, 0x3D], .finish, .feed [0x34, 0x31]]
  have hs : (stretches [.feed [0x3D], .feed [0x34, 0x31, 0x3D], .finish, .finish,
        .feed [0x34, 0x31]]).filter (· ≠ []) =
      (stretches [.feed [0x3D, 0x34], .feed [0x31, 0x3D], .finish,
        .feed [0x34, 0x31]]).filter (· ≠ []) := by decide
  exact ⟨hout.trans (by decide), hcount.trans (by decide), hs, hsame _ hs⟩

end Mime.QuotedPrintable
