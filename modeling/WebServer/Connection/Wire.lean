import WebServer.Bytes

/-!
# The wire

A socket as a connection sees it: what each attempt to write or to read comes to. The first answers
may be fixed one by one; after them the wire follows a simple rule. As a run of a program makes
only finitely many attempts, every behaviour of a socket can be written down so.
-/
namespace WebServer

/-- The answer to an attempt to write. -/
inductive WriteAnswer where
  | accepts (count : Nat)
  | interrupted | wouldBlock | fails
  deriving DecidableEq, Repr

/-- The sending side. Behind the fixed answers, a broken wire fails and an intact one accepts what
its budget allows; without a budget it accepts everything. -/
structure Wire where
  answers : List WriteAnswer := []
  budget : Option Nat := none
  broken : Bool := false
  deriving DecidableEq, Repr

namespace Wire

/-- The answer to an attempt to write `offered`, and the wire after it. No answer accepts more
than was offered. -/
def answer (w : Wire) (offered : Bytes) : WriteAnswer × Wire :=
  match w.answers with
  | .accepts count :: answers =>
    (.accepts (min count offered.length), { w with answers })
  | answer :: answers => (answer, { w with answers })
  | [] =>
    if w.broken then (.fails, w)
    else match w.budget with
      | none => (.accepts offered.length, w)
      | some 0 => (.wouldBlock, w)
      | some budget =>
        let count := min budget offered.length
        (.accepts count, { w with budget := some (budget - count) })

/-- No answer is given twice. -/
theorem answers_answer_le (w : Wire) (offered : Bytes) :
    (w.answer offered).2.answers.length ≤ w.answers.length := by
  unfold answer
  split
  · simp [*]
  · simp [*]
  · split
    · simp
    · split <;> simp

theorem answers_answer_lt (w : Wire) (offered : Bytes)
    (h : (w.answer offered).1 = .interrupted) :
    (w.answer offered).2.answers.length < w.answers.length := by
  unfold answer at h ⊢
  split
  · simp_all
  · simp [*]
  · split
    · simp_all
    · split <;> simp_all

end Wire

/-- What a scripted attempt to read comes to. -/
inductive ReadAnswer where
  /-- At most that many bytes. -/
  | limit (count : Nat)
  | interrupted | wouldBlock | fails
  deriving DecidableEq, Repr

/-- The receiving side: what has arrived and not been read, and whether more can come. -/
structure Source where
  answers : List ReadAnswer := []
  arrived : Bytes := []
  ended : Bool := false
  deriving DecidableEq, Repr

/-- What a read gives. No bytes at all mean the end of the stream. -/
inductive Reading where
  | bytes (bytes : Bytes)
  | interrupted | wouldBlock | fails
  deriving DecidableEq, Repr

namespace Source

/-- Reads at most `size` bytes of what has arrived. -/
def take (s : Source) (size : Nat) : Reading × Source :=
  match s.arrived with
  | [] => if s.ended then (.bytes [], s) else (.wouldBlock, s)
  | arrived => (.bytes (arrived.take size), { s with arrived := arrived.drop size })

/-- One attempt to read at most `size` bytes. -/
def read (s : Source) (size : Nat) : Reading × Source :=
  match s.answers with
  | [] => s.take size
  | .limit count :: answers => { s with answers }.take (min count size)
  | .interrupted :: answers => (.interrupted, { s with answers })
  | .wouldBlock :: answers => (.wouldBlock, { s with answers })
  | .fails :: answers => (.fails, { s with answers })

end Source
end WebServer
