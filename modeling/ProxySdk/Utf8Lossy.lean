/-
ProxySdk/Utf8Lossy.lean

`String::from_utf8_lossy`, which `property::get_property_string` applies to the
bytes the host returns.  The standard library walks the bytes with
`Utf8Chunks`: a whole character is copied, and an invalid piece, the lead byte
with the continuation bytes that still fitted it, becomes one
`U+FFFD REPLACEMENT CHARACTER`.

The decoder is total and what it produces is UTF-8 (`utf8Lossy_valid`), so its
result is a `RustString`; on bytes that are UTF-8 already it changes nothing
(`utf8Lossy_of_valid`).  Both are by induction on the decoder's steps, from one
lemma per direction about a single step (`utf8Step_valid`, `utf8Step_of_valid`).
So lossy decoding agrees with `String::from_utf8` wherever that succeeds, and
decoding twice is decoding once (`fromUtf8Lossy_spec`).  A step that reads a
whole character reads no byte past it (`utf8Step_append`), so UTF-8 bytes are
kept as they are whatever follows them (`utf8Lossy_append_of_valid`).
-/
import ProxySdk.Property

namespace ProxySdk

/-- `U+FFFD REPLACEMENT CHARACTER`, in UTF-8. -/
def replacementChar : Bytes := [0xEF, 0xBF, 0xBD]

/-- One step of `Utf8Chunks::next` at lead byte `b`, with `rest` the bytes after
it and a missing byte read as `0` (`safe_get`): how many bytes after the lead the
step takes, and whether they and the lead are one whole character. -/
def utf8Step (b : UInt8) (rest : Bytes) : Nat × Bool :=
  if b < 0x80 then (0, true)
  else if 0xC2 ≤ b && b ≤ 0xDF then
    if isCont (rest.getD 0 0) then (1, true) else (0, false)
  else if 0xE0 ≤ b && b ≤ 0xEF then
    if secondOk b (rest.getD 0 0) then
      if isCont (rest.getD 1 0) then (2, true) else (1, false)
    else (0, false)
  else if 0xF0 ≤ b && b ≤ 0xF4 then
    if secondOk b (rest.getD 0 0) then
      if isCont (rest.getD 1 0) then
        if isCont (rest.getD 2 0) then (3, true) else (2, false)
      else (1, false)
    else (0, false)
  else (0, false)

/-- `String::from_utf8_lossy`, on the bytes. -/
def utf8Lossy : Bytes → Bytes
  | [] => []
  | b :: rest =>
    (if (utf8Step b rest).2 then b :: rest.take (utf8Step b rest).1 else replacementChar) ++
      utf8Lossy (rest.drop (utf8Step b rest).1)
termination_by bytes => bytes.length
decreasing_by
  simp only [List.length_drop, List.length_cons]
  omega

/-! ### One step -/

theorem utf8Valid_replacementChar_append (y : Bytes) :
    utf8Valid (replacementChar ++ y) = utf8Valid y := by
  show utf8Valid (0xEF :: 0xBF :: 0xBD :: y) = _
  rw [utf8Valid_three (by decide) (by decide) (by decide)]
  rfl

section Step

variable {b : UInt8} {rest : Bytes}

/-- The step at an ASCII byte. -/
theorem utf8Step_ascii (h₁ : b < 0x80) : utf8Step b rest = (0, true) := if_pos h₁

/-- The step at the lead of a two-byte character. -/
theorem utf8Step_two (h₁ : ¬b < 0x80) (h₂ : (0xC2 ≤ b && b ≤ 0xDF) = true) :
    utf8Step b rest = if isCont (rest.getD 0 0) then (1, true) else (0, false) := by
  rw [utf8Step, if_neg h₁, if_pos h₂]

/-- The step at the lead of a three-byte character. -/
theorem utf8Step_three (h₁ : ¬b < 0x80) (h₂ : ¬(0xC2 ≤ b && b ≤ 0xDF) = true)
    (h₃ : (0xE0 ≤ b && b ≤ 0xEF) = true) :
    utf8Step b rest = if secondOk b (rest.getD 0 0) then
      (if isCont (rest.getD 1 0) then (2, true) else (1, false)) else (0, false) := by
  rw [utf8Step, if_neg h₁, if_neg h₂, if_pos h₃]

/-- The step at the lead of a four-byte character. -/
theorem utf8Step_four (h₁ : ¬b < 0x80) (h₂ : ¬(0xC2 ≤ b && b ≤ 0xDF) = true)
    (h₃ : ¬(0xE0 ≤ b && b ≤ 0xEF) = true) (h₄ : (0xF0 ≤ b && b ≤ 0xF4) = true) :
    utf8Step b rest = if secondOk b (rest.getD 0 0) then
      (if isCont (rest.getD 1 0) then (if isCont (rest.getD 2 0) then (3, true) else (2, false))
        else (1, false)) else (0, false) := by
  rw [utf8Step, if_neg h₁, if_neg h₂, if_neg h₃, if_pos h₄]

/-- The step at a byte that starts no character. -/
theorem utf8Step_other (h₁ : ¬b < 0x80) (h₂ : ¬(0xC2 ≤ b && b ≤ 0xDF) = true)
    (h₃ : ¬(0xE0 ≤ b && b ≤ 0xEF) = true) (h₄ : ¬(0xF0 ≤ b && b ≤ 0xF4) = true) :
    utf8Step b rest = (0, false) := by
  rw [utf8Step, if_neg h₁, if_neg h₂, if_neg h₃, if_neg h₄]

/-- A whole character that a step reads is valid UTF-8 in front of anything. -/
theorem utf8Step_valid {k : Nat} (h : utf8Step b rest = (k, true)) (y : Bytes) :
    utf8Valid (b :: rest.take k ++ y) = utf8Valid y := by
  have cont0 : isCont 0 = false := by decide
  have second0 : secondOk b 0 = false := secondOk_of_lt b (by decide)
  by_cases h₁ : b < 0x80
  · cases (utf8Step_ascii h₁).symm.trans h
    exact utf8Valid_ascii h₁
  by_cases h₂ : (0xC2 ≤ b && b ≤ 0xDF) = true
  · rw [utf8Step_two h₁ h₂] at h
    rcases rest with _ | ⟨c₁, rest⟩ <;> simp only [List.getD_cons_zero, List.getD_cons_succ, List.getD_nil] at h
    · simp [cont0] at h
    · cases hc₁ : isCont c₁ <;> simp [hc₁] at h
      subst h
      simp [utf8Valid_two h₁ h₂, hc₁]
  by_cases h₃ : (0xE0 ≤ b && b ≤ 0xEF) = true
  · rw [utf8Step_three h₁ h₂ h₃] at h
    rcases rest with _ | ⟨c₁, _ | ⟨c₂, rest⟩⟩ <;> simp only [List.getD_cons_zero, List.getD_cons_succ, List.getD_nil] at h
    · simp [second0] at h
    · cases hs : secondOk b c₁ <;> simp [hs, cont0] at h
    · cases hs : secondOk b c₁ <;> cases hc₂ : isCont c₂ <;> simp [hs, hc₂] at h
      subst h
      simp [utf8Valid_three h₁ h₂ h₃, hs, hc₂]
  by_cases h₄ : (0xF0 ≤ b && b ≤ 0xF4) = true
  · rw [utf8Step_four h₁ h₂ h₃ h₄] at h
    rcases rest with _ | ⟨c₁, _ | ⟨c₂, _ | ⟨c₃, rest⟩⟩⟩ <;> simp only [List.getD_cons_zero, List.getD_cons_succ, List.getD_nil] at h
    · simp [second0] at h
    · cases hs : secondOk b c₁ <;> simp [hs, cont0] at h
    · cases hs : secondOk b c₁ <;> cases hc₂ : isCont c₂ <;> simp [hs, hc₂, cont0] at h
    · cases hs : secondOk b c₁ <;> cases hc₂ : isCont c₂ <;> cases hc₃ : isCont c₃ <;>
        simp [hs, hc₂, hc₃] at h
      subst h
      simp [utf8Valid_four h₁ h₂ h₃ h₄, hs, hc₂, hc₃]
  · cases (utf8Step_other h₁ h₂ h₃ h₄).symm.trans h

/-- A step at the start of valid UTF-8 reads a whole character, and what
follows it is valid UTF-8 again. -/
theorem utf8Step_of_valid (h : utf8Valid (b :: rest) = true) :
    (utf8Step b rest).2 = true ∧ utf8Valid (rest.drop (utf8Step b rest).1) = true := by
  by_cases h₁ : b < 0x80
  · rw [utf8Step_ascii h₁, ← utf8Valid_ascii h₁]
    exact ⟨rfl, h⟩
  by_cases h₂ : (0xC2 ≤ b && b ≤ 0xDF) = true
  · rw [utf8Step_two h₁ h₂]
    rcases rest with _ | ⟨c₁, rest⟩
    · simp [utf8Valid_two_short h₁ h₂] at h
    · simp only [utf8Valid_two h₁ h₂, Bool.and_eq_true] at h
      simp only [List.getD_cons_zero, h.1, h.2, if_true, List.drop_one, List.tail_cons, and_self]
  by_cases h₃ : (0xE0 ≤ b && b ≤ 0xEF) = true
  · rw [utf8Step_three h₁ h₂ h₃]
    rcases rest with _ | ⟨c₁, _ | ⟨c₂, rest⟩⟩
    · simp [@utf8Valid_three_short b [] h₁ h₂ h₃ (fun _ _ _ h => nomatch h)] at h
    · simp [@utf8Valid_three_short b [c₁] h₁ h₂ h₃ (fun _ _ _ h => nomatch h)] at h
    · simp only [utf8Valid_three h₁ h₂ h₃, Bool.and_eq_true] at h
      simp only [List.getD_cons_zero, List.getD_cons_succ, h.1.1, h.1.2, h.2, if_true,
        List.drop_succ_cons, List.drop_zero, and_self]
  by_cases h₄ : (0xF0 ≤ b && b ≤ 0xF4) = true
  · rw [utf8Step_four h₁ h₂ h₃ h₄]
    rcases rest with _ | ⟨c₁, _ | ⟨c₂, _ | ⟨c₃, rest⟩⟩⟩
    · simp [@utf8Valid_four_short b [] h₁ h₂ h₃ h₄ (fun _ _ _ _ h => nomatch h)] at h
    · simp [@utf8Valid_four_short b [c₁] h₁ h₂ h₃ h₄ (fun _ _ _ _ h => nomatch h)] at h
    · simp [@utf8Valid_four_short b [c₁, c₂] h₁ h₂ h₃ h₄ (fun _ _ _ _ h => nomatch h)] at h
    · simp only [utf8Valid_four h₁ h₂ h₃ h₄, Bool.and_eq_true] at h
      simp only [List.getD_cons_zero, List.getD_cons_succ, h.1.1.1, h.1.1.2, h.1.2, h.2, if_true,
        List.drop_succ_cons, List.drop_zero, and_self]
  · simp [utf8Valid_other h₁ h₂ h₃ h₄] at h

/-- A step that reads a whole character reads only bytes that are there, so
what follows them does not change it. -/
theorem utf8Step_append (h : (utf8Step b rest).2 = true) (more : Bytes) :
    utf8Step b (rest ++ more) = utf8Step b rest ∧ (utf8Step b rest).1 ≤ rest.length := by
  have cont0 : isCont 0 = false := by decide
  have second0 : secondOk b 0 = false := secondOk_of_lt b (by decide)
  by_cases h₁ : b < 0x80
  · rw [utf8Step_ascii h₁, utf8Step_ascii h₁]
    exact ⟨rfl, Nat.zero_le _⟩
  by_cases h₂ : (0xC2 ≤ b && b ≤ 0xDF) = true
  · simp only [utf8Step_two h₁ h₂] at h ⊢
    rcases rest with _ | ⟨c₁, rest⟩
    · simp [cont0] at h
    · exact ⟨rfl, by split <;> simp⟩
  by_cases h₃ : (0xE0 ≤ b && b ≤ 0xEF) = true
  · simp only [utf8Step_three h₁ h₂ h₃] at h ⊢
    rcases rest with _ | ⟨c₁, _ | ⟨c₂, rest⟩⟩
    · simp [second0] at h
    · cases hs : secondOk b c₁ <;> simp [hs, cont0] at h
    · exact ⟨rfl, by split <;> (try split) <;> simp⟩
  by_cases h₄ : (0xF0 ≤ b && b ≤ 0xF4) = true
  · simp only [utf8Step_four h₁ h₂ h₃ h₄] at h ⊢
    rcases rest with _ | ⟨c₁, _ | ⟨c₂, _ | ⟨c₃, rest⟩⟩⟩
    · simp [second0] at h
    · cases hs : secondOk b c₁ <;> simp [hs, cont0] at h
    · simp only [List.getD_cons_zero, List.getD_cons_succ, List.getD_nil, cont0] at h
      cases hs : secondOk b c₁ <;> cases hc₂ : isCont c₂ <;> simp [hs, hc₂] at h
    · exact ⟨rfl, by split <;> (try split) <;> (try split) <;> simp⟩
  · rw [utf8Step_other h₁ h₂ h₃ h₄] at h
    cases h

end Step

/-! ### The decoder -/

/-- **What `from_utf8_lossy` produces is UTF-8.** -/
theorem utf8Lossy_valid (bytes : Bytes) : utf8Valid (utf8Lossy bytes) = true := by
  induction bytes using utf8Lossy.induct with
  | case1 => rw [utf8Lossy]; rfl
  | case2 b rest ih =>
    rw [utf8Lossy]
    split
    · rename_i hok
      rw [utf8Step_valid (Prod.ext rfl hok), ih]
    · rw [utf8Valid_replacementChar_append, ih]

/-- **On UTF-8, `from_utf8_lossy` changes nothing.** -/
theorem utf8Lossy_of_valid (bytes : Bytes) (h : utf8Valid bytes = true) : utf8Lossy bytes = bytes := by
  induction bytes using utf8Lossy.induct with
  | case1 => rw [utf8Lossy]
  | case2 b rest ih =>
    obtain ⟨hok, hrest⟩ := utf8Step_of_valid h
    rw [utf8Lossy, if_pos hok, ih hrest, List.cons_append, List.take_append_drop]

/-- **A valid prefix survives lossy decoding**: UTF-8 bytes are kept as they
are, whatever follows them, and what follows is decoded on its own. -/
theorem utf8Lossy_append_of_valid (x : Bytes) (h : utf8Valid x = true) (y : Bytes) :
    utf8Lossy (x ++ y) = x ++ utf8Lossy y := by
  induction x using utf8Lossy.induct with
  | case1 => rfl
  | case2 b rest ih =>
    obtain ⟨hok, hrest⟩ := utf8Step_of_valid h
    obtain ⟨hstep, hle⟩ := utf8Step_append hok y
    rw [List.cons_append, utf8Lossy, hstep, if_pos hok, List.take_append_of_le_length hle,
      List.drop_append_of_le_length hle, ih hrest, List.cons_append, ← List.append_assoc,
      List.take_append_drop, List.cons_append]

/-- `String::from_utf8_lossy(..).into_owned()`. -/
def RustString.fromUtf8Lossy (bytes : Bytes) : RustString := ⟨utf8Lossy bytes, utf8Lossy_valid bytes⟩

/-- **Lossy decoding replaces exactly what is not UTF-8**: it returns its input
unchanged exactly when the input is UTF-8, it agrees with `String::from_utf8`
wherever that succeeds, and decoding its result again changes nothing. -/
theorem fromUtf8Lossy_spec (bytes : Bytes) :
    ((RustString.fromUtf8Lossy bytes).bytes = bytes ↔ utf8Valid bytes = true) ∧
      (∀ s, RustString.fromUtf8 bytes = some s → RustString.fromUtf8Lossy bytes = s) ∧
      RustString.fromUtf8Lossy (RustString.fromUtf8Lossy bytes).bytes = RustString.fromUtf8Lossy bytes := by
  refine ⟨⟨fun h => h ▸ utf8Lossy_valid bytes, utf8Lossy_of_valid bytes⟩, fun s hs => ?_,
    RustString.ext (utf8Lossy_of_valid _ (utf8Lossy_valid bytes))⟩
  unfold RustString.fromUtf8 at hs
  split at hs
  · cases hs
    exact RustString.ext (utf8Lossy_of_valid bytes ‹_›)
  · cases hs

example : utf8Lossy [0x61, 0xE0, 0xA0, 0x62] = [0x61, 0xEF, 0xBF, 0xBD, 0x62] := by
  simp [utf8Lossy, utf8Step, replacementChar, isCont, secondOk]

end ProxySdk
