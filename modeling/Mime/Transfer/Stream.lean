import Mime.Text.Basic

/-! A stream of octets that is read in pieces and may fail at one of the reads. -/

namespace Mime

structure Stream where
  rest : Octets
  /-- How many reads succeeded. -/
  reads : Nat := 0
  /-- The read, counted from zero, that fails, and what is said of it. -/
  failure : Option (Nat × Text) := none

namespace Stream

def ofOctets (o : Octets) : Stream := { rest := o }

/-- The sizes by which octets in memory can be read: signed numbers of 64 bits. -/
def fitsIndex (size : Int) : Bool := -0x8000000000000000 ≤ size && size < 0x8000000000000000

/-- What is said of other sizes. -/
def indexMessage : Text := "cannot fit 'int' into an index-sized integer"

/-- Takes up to `size` octets, or everything if the size is negative. -/
def taken (s : Stream) (size : Int) : Octets := if size < 0 then s.rest else s.rest.take size.toNat

def remaining (s : Stream) (size : Int) : Octets := if size < 0 then [] else s.rest.drop size.toNat

/-- What is said of the next read, if it fails. -/
def failing? (s : Stream) : Option Text :=
  (s.failure.filter (·.1 == s.reads)).map (·.2)

/-- The octets of the next read, and the stream after it. -/
def read (s : Stream) (size : Int) : Except Text (Octets × Stream) :=
  match s.failing? with
  | some reason => .error reason
  | none => .ok (s.taken size, { s with rest := s.remaining size, reads := s.reads + 1 })

theorem taken_append_remaining (s : Stream) (size : Int) :
    s.taken size ++ s.remaining size = s.rest := by
  unfold taken remaining
  split <;> simp

theorem rest_of_read {s s' : Stream} {size : Int} {o : Octets} (h : s.read size = .ok (o, s')) :
    o ++ s'.rest = s.rest := by
  unfold read at h
  split at h
  · cases h
  · cases h
    exact taken_append_remaining s size

end Stream

end Mime
