import Mathlib.Tactic.IntervalCases
import TraceLens.Proofs.Text.Utf8
import TraceLens.Text.Lines

/-!
# Texts cut at a byte

The first bytes of a text may end inside a character. `readable` reads any bytes and leaves out what
is no UTF-8, so of a text cut there it reads the whole characters.

Main statements: `readable_take` says that these are as many characters as `charsWithin` counts, and
`le_charsWithin_iff` which counts of characters fit in some bytes.
-/

namespace TraceLens

variable {cs : List Char} {k n : Nat}

/-! ## Counting bytes -/

theorem utf8Length_eq (cs : List Char) :
    utf8Length cs = (cs.flatMap String.utf8EncodeChar).length := by
  induction cs with
  | nil => rfl
  | cons c cs ih =>
    rw [utf8Length, ih, List.flatMap_cons, List.length_append, String.length_utf8EncodeChar]

/-- So many characters lie within some bytes just when their own bytes are no more. -/
theorem le_charsWithin_iff (hk : k ≤ cs.length) :
    k ≤ charsWithin cs n ↔ utf8Length (cs.take k) ≤ n := by
  induction cs generalizing k n with
  | nil =>
    obtain rfl : k = 0 := Nat.le_zero.1 hk
    simp [utf8Length]
  | cons c cs ih =>
    cases k with
    | zero => simp [utf8Length]
    | succ k =>
      have hk' : k ≤ cs.length := Nat.le_of_succ_le_succ hk
      rw [charsWithin, List.take_succ_cons, utf8Length]
      split_ifs with fits
      · rw [Nat.succ_le_succ_iff, ih hk', Nat.le_sub_iff_add_le' fits]
      · omega

theorem utf8Length_take_charsWithin_le (cs : List Char) (n : Nat) :
    utf8Length (cs.take (charsWithin cs n)) ≤ n :=
  (le_charsWithin_iff (charsWithin_le cs n)).1 (Nat.le_refl _)

theorem charsWithin_mono (cs : List Char) {m n : Nat} (h : m ≤ n) :
    charsWithin cs m ≤ charsWithin cs n := by
  rw [le_charsWithin_iff (charsWithin_le cs m)]
  exact Nat.le_trans (utf8Length_take_charsWithin_le cs m) h

/-- The bytes of the first characters hold those characters and no more of them. -/
theorem charsWithin_utf8Length_take (hk : k ≤ cs.length) :
    charsWithin cs (utf8Length (cs.take k)) = k := by
  induction cs generalizing k with
  | nil => exact (Nat.le_zero.1 hk).symm
  | cons c cs ih =>
    cases k with
    | zero => simpa [utf8Length, charsWithin] using c.utf8Size_pos.ne'
    | succ k => simp [utf8Length, charsWithin, ih (Nat.le_of_succ_le_succ hk)]

/-- Bytes beyond the end of a text hold no further characters. -/
theorem charsWithin_min (cs : List Char) (n : Nat) :
    charsWithin cs (min n (utf8Length cs)) = charsWithin cs n := by
  rcases Nat.le_total n (utf8Length cs) with h | h
  · rw [Nat.min_eq_left h]
  · rw [Nat.min_eq_right h]
    apply Nat.le_antisymm
    · exact charsWithin_mono cs h
    · calc charsWithin cs n
          ≤ cs.length := charsWithin_le cs n
        _ = charsWithin cs (utf8Length cs) := by
          simpa using (charsWithin_utf8Length_take (Nat.le_refl cs.length)).symm

namespace Utf8

variable {b : UInt8} {i j l : Nat}

/-! ## Forms that end too early -/

theorem scan_two_cut (low : 0xC2 ≤ b.toNat) (high : b.toNat < 0xE0) :
    scan b [] = .fault 1 .unexpectedEnd := by
  simp only [scan, UInt8.lt_iff_toNat_lt, UInt8.reduceToNat]
  rw [if_neg (by omega), if_neg (by omega), if_pos high]

theorem scan_three_cut (low : 0xE0 ≤ b.toNat) (high : b.toNat < 0xF0)
    (follows : followsLead b (continuation i)) (hn : n < 2) :
    scan b ([continuation i, continuation j].take n) = .fault (n + 1) .unexpectedEnd := by
  simp only [scan, UInt8.lt_iff_toNat_lt, UInt8.reduceToNat]
  rw [if_neg (by omega), if_neg (by omega), if_neg (by omega), if_pos high]
  interval_cases n <;> simp [follows]

theorem scan_four_cut (low : 0xF0 ≤ b.toNat) (high : b.toNat < 0xF5)
    (follows : followsLead b (continuation i)) (hn : n < 3) :
    scan b ([continuation i, continuation j, continuation l].take n) =
      .fault (n + 1) .unexpectedEnd := by
  simp only [scan, UInt8.lt_iff_toNat_lt, UInt8.reduceToNat]
  rw [if_neg (by omega), if_neg (by omega), if_neg (by omega), if_neg (by omega), if_pos high]
  interval_cases n <;> simp [follows]

/-- The first bytes of a character, when some are missing, are refused together. -/
theorem scan_take (c : Char) {b : UInt8} {bs : List UInt8} (h : String.utf8EncodeChar c = b :: bs)
    (hn : n < bs.length) : scan b (bs.take n) = .fault (n + 1) .unexpectedEnd := by
  have hvalid : c.val.toNat < 0xD800 ∨ 0xDFFF < c.val.toNat ∧ c.val.toNat < 0x110000 := c.valid
  dsimp only [String.utf8EncodeChar] at h
  generalize c.val.toNat = v at *
  split at h
  · obtain ⟨rfl, rfl⟩ := List.cons.inj h
    simp at hn
  split at h
  · have hb : (UInt8.ofNat (v / 64 % 0x20 + 0xc0)).toNat = v / 64 % 0x20 + 0xc0 :=
      toNat_ofNat (by omega)
    obtain ⟨rfl, rfl⟩ := List.cons.inj h
    obtain rfl : n = 0 := by simpa using hn
    exact scan_two_cut (by omega) (by omega)
  split at h
  · have hb : (UInt8.ofNat (v / 4096 % 0x10 + 0xe0)).toNat = v / 4096 % 0x10 + 0xe0 :=
      toNat_ofNat (by omega)
    obtain ⟨rfl, rfl⟩ := List.cons.inj h
    exact scan_three_cut (i := v / 64) (j := v) (by omega) (by omega)
      (followsLead_continuation (by omega) (by omega) (by omega) (by omega)) hn
  · have hb : (UInt8.ofNat (v / 262144 % 0x08 + 0xf0)).toNat = v / 262144 % 0x08 + 0xf0 :=
      toNat_ofNat (by omega)
    obtain ⟨rfl, rfl⟩ := List.cons.inj h
    exact scan_four_cut (i := v / 4096) (j := v / 64) (l := v) (by omega) (by omega)
      (followsLead_continuation (by omega) (by omega) (by omega) (by omega)) hn

/-! ## Reading what is left -/

/-- The characters of some bytes, without what is no UTF-8. -/
def readable : List UInt8 → List Char
  | [] => []
  | b :: rest =>
    match scan b rest with
    | .fault width _ => readable (rest.drop (width - 1))
    | .char c more => c :: readable (rest.drop more)
termination_by bytes => bytes.length
decreasing_by all_goals simp only [List.length_drop, List.length_cons]; omega

theorem readable_utf8EncodeChar_append (c : Char) (rest : List UInt8) :
    readable (String.utf8EncodeChar c ++ rest) = c :: readable rest := by
  obtain ⟨b, bs, hbytes, hscan⟩ := scan_utf8EncodeChar c rest
  rw [hbytes, List.cons_append, readable, hscan]
  simp only [List.drop_left]

theorem readable_take_utf8EncodeChar (c : Char) (hn : n < c.utf8Size) :
    readable ((String.utf8EncodeChar c).take n) = [] := by
  obtain ⟨b, bs, hbytes, -⟩ := scan_utf8EncodeChar c []
  rw [← String.length_utf8EncodeChar, hbytes, List.length_cons] at hn
  rw [hbytes]
  cases n with
  | zero => rw [List.take_zero, readable]
  | succ n =>
    rw [List.take_succ_cons, readable, scan_take c hbytes (Nat.lt_of_succ_lt_succ hn)]
    simp [readable]

/-- The first bytes of a text are read as the characters that lie within them. -/
theorem readable_take (cs : List Char) (n : Nat) :
    readable ((cs.flatMap String.utf8EncodeChar).take n) = cs.take (charsWithin cs n) := by
  induction cs generalizing n with
  | nil => simp [readable]
  | cons c cs ih =>
    rw [List.flatMap_cons, List.take_append, String.length_utf8EncodeChar, charsWithin]
    split_ifs with fits
    · have whole : (String.utf8EncodeChar c).take n = String.utf8EncodeChar c :=
        List.take_of_length_le (by rwa [String.length_utf8EncodeChar])
      rw [whole, readable_utf8EncodeChar_append, ih, List.take_succ_cons]
    · have none : n - c.utf8Size = 0 := by omega
      rw [none, List.take_zero, List.append_nil, List.take_zero]
      exact readable_take_utf8EncodeChar c (Nat.lt_of_not_le fits)

end Utf8

end TraceLens
