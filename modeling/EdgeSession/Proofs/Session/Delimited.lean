import EdgeSession.Proofs.Session.Fields

/-!
Where a frame ends is said by the frame itself: cut short anywhere, or with anything behind it, it
is no frame any more.
-/
namespace EdgeSession.Pack

/-- Limits for a text allow all that a shorter one may hold. -/
theorem Limits.allow_of_le {length bound : Nat} (h : length ≤ bound) :
    (Limits.ofLength bound).Allow length := by
  obtain ⟨items, pairs⟩ := Limits.allow_ofLength bound
  exact ⟨Nat.le_trans h items, Nat.le_trans h pairs⟩

variable {bytes rest : Bytes} {value : Value}

/-- **A value that was read whole is read from any text that goes on behind it**, and what follows
is left over. The limits for the longer text are wider, so they refuse nothing more. -/
theorem readValue_append (h : unpack bytes = .ok value) (rest : Bytes) :
    readValue (.ofLength (bytes ++ rest).length) maxNesting (bytes ++ rest) =
      .ok (value, rest) := by
  refine readValue_complete (unpack_eq_ok_iff.1 h) (Limits.allow_of_le ?_) rest
  rw [List.length_append]
  exact Nat.le_add_right _ _

theorem unpack_append (h : unpack bytes = .ok value) (more : rest ≠ []) :
    unpack (bytes ++ rest) = .error .trailing := by
  obtain ⟨b, tail, rfl⟩ := List.exists_cons_of_ne_nil more
  rw [unpack, readValue_append h]

/-- No text that starts a written value is one. -/
theorem unpack_front (h : unpack (bytes ++ rest) = .ok value) (more : rest ≠ []) :
    ∃ fault, unpack bytes = .error fault := by
  cases front : unpack bytes with
  | error fault => exact ⟨fault, rfl⟩
  | ok other =>
    rw [unpack_append front more] at h
    cases h

end EdgeSession.Pack

namespace EdgeSession.Frame

open Pack

/-- A frame that is reported as one that cannot be decoded. -/
def Undecodable (frame : Bytes) : Prop :=
  ∃ fault, decode frame = .error fault ∧ fault.failure = .undecodable fault.message

variable {frame : Bytes} {m : Message}

theorem undecodable_of_unpack {fault : Pack.Fault} (h : unpack frame = .error fault) :
    Undecodable frame := by
  refine ⟨.malformed fault, ?_, rfl⟩
  unfold decode
  rw [h]

theorem unpack_of_decode (h : decode frame = .ok m) : ∃ value, unpack frame = .ok value := by
  obtain ⟨pairs, text, -⟩ := decode_ok_iff.1 h
  exact ⟨_, unpack_mapText text⟩

/-- **Frames delimit themselves.** Of a frame that is taken no part that stops short of its end is
one, and neither is the frame with anything behind it, be it padding or a frame again. -/
theorem self_delimiting (h : decode frame = .ok m) :
    (∀ front, front <+: frame → front ≠ frame → Undecodable front) ∧
    ∀ rest, rest ≠ [] → Undecodable (frame ++ rest) := by
  obtain ⟨value, read⟩ := unpack_of_decode h
  constructor
  · rintro front ⟨rest, rfl⟩ short
    have more : rest ≠ [] := by
      rintro rfl
      exact short (List.append_nil front).symm
    obtain ⟨fault, unread⟩ := unpack_front read more
    exact undecodable_of_unpack unread
  · intro rest more
    exact undecodable_of_unpack (unpack_append read more)

/-- A frame with a list in a list under a name that no field has: it does not do without its last
byte, and two of them are none. -/
theorem self_delimiting_nested :
    decode [0x81, 0xA1, 0x78, 0x91, 0x91, 0xC0] = .ok { type := 0 } ∧
      Undecodable [0x81, 0xA1, 0x78, 0x91, 0x91] ∧
      Undecodable
        ([0x81, 0xA1, 0x78, 0x91, 0x91, 0xC0] ++ [0x81, 0xA1, 0x78, 0x91, 0x91, 0xC0]) := by
  have read : decode [0x81, 0xA1, 0x78, 0x91, 0x91, 0xC0] = .ok { type := 0 } := by decide +kernel
  obtain ⟨cut, grown⟩ := self_delimiting read
  exact ⟨read, cut _ ⟨[0xC0], rfl⟩ (by decide), grown _ (by decide)⟩

end EdgeSession.Frame
