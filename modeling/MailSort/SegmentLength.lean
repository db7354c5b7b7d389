import MailSort.Fault

/-! # Segment lengths

Two texts share a run by accident if the run is short.  A segment length is the least
number of characters a shared run needs to become part of a template; it is at least 2.
-/

namespace MailSort

/-- A least length for the literals of a template. -/
structure SegmentLength where
  chars : Nat
  two_le : 2 ≤ chars
  deriving DecidableEq, Repr

namespace SegmentLength

def shortest : SegmentLength :=
  ⟨2, Nat.le_refl 2⟩

def ofNat? (length : Nat) : Except Fault SegmentLength :=
  if h : 2 ≤ length then .ok ⟨length, h⟩ else .error (.segmentTooShort length)

end SegmentLength

end MailSort
