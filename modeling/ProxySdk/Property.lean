/-
ProxySdk/Property.lean

Property paths.  `serialize_property_path` (`hostcalls::utils`) writes every
segment followed by a `0` byte and pops the last `0` again; the host calls
`get_property` and `set_property` of `hostcalls.rs` pass what it writes, and the
`property` module's `get_property(name)` and `set_property(name, value)` build
the path with `name.split('.')`.

The path is the segments joined by single `0` bytes
(`serializePropertyPath_eq_intercalate`), and joining the pieces of a split
with another byte replaces the separator by it (`intercalate_splitOn_eq_map`),
so a property name reaches the host as

    proxy_get_property(name.bytes with every 0x2E replaced by 0).

Design.  `str::split('.')` is taken on the UTF-8 bytes: `'.'` is the one byte
`0x2E`, and a byte below `0x80` never occurs inside a multi-byte sequence, so
each piece is UTF-8 again (`utf8Valid_append_ascii`) and is a `RustString`.
The host's status and the buffer it hands back are inputs, as elsewhere in the
model.  A failed call is logged by `log_concern`, which runs in `Logged`: a
warning the logger passes on is a `proxy_log`, and a log the host refuses
panics (`Property.getProperty_run`).
-/
import ProxySdk.Hostcalls.Utils
import ProxySdk.Logger

namespace ProxySdk

/-! ### UTF-8 at an ASCII byte -/

section Ascii

variable {c : UInt8}

/-- A byte range that starts at `0x80` or above never holds an ASCII byte. -/
theorem rangeCheck_of_lt {lo hi : UInt8} (hlo : 0x80 ≤ lo) (hc : c < 0x80) :
    (lo ≤ c && c ≤ hi) = false := by
  simp only [Bool.and_eq_false_iff, decide_eq_false_iff_not]
  left
  simp only [UInt8.lt_def, UInt8.le_def, UInt8.toBitVec_ofNat] at *
  bv_omega

theorem isCont_of_lt (hc : c < 0x80) : isCont c = false := rangeCheck_of_lt (by decide) hc

theorem secondOk_of_lt (b : UInt8) (hc : c < 0x80) : secondOk b c = false := by
  unfold secondOk
  split_ifs <;> exact rangeCheck_of_lt (by decide) hc

/-- Before an ASCII byte every multi-byte sequence is complete: the byte splits
valid UTF-8 into two valid halves, by induction on the sequences of the first. -/
theorem utf8Valid_append_ascii (hc : c < 0x80) (y : Bytes) :
    ∀ x, utf8Valid (x ++ c :: y) = (utf8Valid x && utf8Valid y) := by
  intro x
  induction x using utf8Valid.induct with
  | case1 => simp [utf8Valid_ascii hc, utf8Valid_nil]
  | case2 b rest hb ih => simp [utf8Valid_ascii hb, ih]
  | case3 b hb h2 c₁ rest ih => simp [utf8Valid_two hb h2, ih, Bool.and_assoc]
  | case4 b hb h2 => simp [utf8Valid_two hb h2, utf8Valid_two_short hb h2, isCont_of_lt hc]
  | case5 b hb h2 h3 c₁ c₂ rest ih => simp [utf8Valid_three hb h2 h3, ih, Bool.and_assoc]
  | case6 b rest hb h2 h3 hr =>
    -- a three-byte lead with fewer than two bytes after it: `c` is read as one of them
    rw [utf8Valid_three_short hb h2 h3 hr]
    rcases rest with _ | ⟨c₁, _ | ⟨c₂, rest⟩⟩
    · cases y with
      | nil => exact utf8Valid_three_short hb h2 h3 (by simp)
      | cons d y => simp [utf8Valid_three hb h2 h3, secondOk_of_lt b hc]
    · simp [utf8Valid_three hb h2 h3, isCont_of_lt hc]
    · exact (hr _ _ _ rfl).elim
  | case7 b hb h2 h3 h4 c₁ c₂ c₃ rest ih =>
    simp [utf8Valid_four hb h2 h3 h4, ih, Bool.and_assoc]
  | case8 b rest hb h2 h3 h4 hr =>
    -- a four-byte lead with fewer than three bytes after it
    rw [utf8Valid_four_short hb h2 h3 h4 hr]
    rcases rest with _ | ⟨c₁, _ | ⟨c₂, _ | ⟨c₃, rest⟩⟩⟩
    · rcases y with _ | ⟨d₁, _ | ⟨d₂, y⟩⟩
      · exact utf8Valid_four_short hb h2 h3 h4 (by simp)
      · exact utf8Valid_four_short hb h2 h3 h4 (by simp)
      · simp [utf8Valid_four hb h2 h3 h4, secondOk_of_lt b hc]
    · cases y with
      | nil => exact utf8Valid_four_short hb h2 h3 h4 (by simp)
      | cons d y => simp [utf8Valid_four hb h2 h3 h4, isCont_of_lt hc]
    · simp [utf8Valid_four hb h2 h3 h4, isCont_of_lt hc]
    · exact (hr _ _ _ _ rfl).elim
  | case9 b rest hb h2 h3 h4 => simp [utf8Valid_other hb h2 h3 h4]

end Ascii

/-! ### Joining and splitting at a byte -/

section Join

variable {α : Type}

@[simp] theorem intercalate_singleton (s x : List α) : s.intercalate [x] = x := by
  simp [List.intercalate]

theorem intercalate_cons_cons (s x y : List α) (L : List (List α)) :
    s.intercalate (x :: y :: L) = x ++ s ++ s.intercalate (y :: L) := by
  simp [List.intercalate, List.intersperse_cons₂]

/-- Every piece followed by `s` is the pieces joined by `s`, then `s`. -/
theorem flatMap_append_singleton (s : α) :
    ∀ L : List (List α), L ≠ [] → L.flatMap (· ++ [s]) = [s].intercalate L ++ [s]
  | [x], _ => by simp
  | x :: y :: L, _ => by
    rw [List.flatMap_cons, flatMap_append_singleton s (y :: L) (List.cons_ne_nil _ _),
      intercalate_cons_cons]
    simp

end Join

section Split

variable {c : UInt8}

theorem utf8Valid_intercalate_ascii (hc : c < 0x80) :
    ∀ L : List Bytes, utf8Valid ([c].intercalate L) = L.all utf8Valid
  | [] => rfl
  | [x] => by simp
  | x :: y :: L => by
    rw [intercalate_cons_cons, List.append_assoc, List.singleton_append, utf8Valid_append_ascii hc,
      utf8Valid_intercalate_ascii hc (y :: L)]
    simp

/-- The pieces of UTF-8 bytes split at an ASCII byte are UTF-8. -/
theorem utf8Valid_of_mem_splitOn (hc : c < 0x80) {bs p : Bytes} (hv : utf8Valid bs = true)
    (hp : p ∈ bs.splitOn c) : utf8Valid p = true := by
  rw [← List.intercalate_splitOn bs c, utf8Valid_intercalate_ascii hc, List.all_eq_true] at hv
  exact hv p hp

/-- Joining the pieces of a split at `c` with `c'` replaces every `c` by `c'`. -/
theorem intercalate_splitOn_eq_map (c' : UInt8) : ∀ bs : Bytes,
    [c'].intercalate (bs.splitOn c) = bs.map fun b => if b = c then c' else b
  | [] => rfl
  | b :: bs => by
    have ih := intercalate_splitOn_eq_map c' bs
    obtain ⟨x, L, hL⟩ := List.exists_cons_of_ne_nil (List.splitOnP_ne_nil (· == c) bs)
    simp only [List.splitOn, List.splitOnP_cons, hL] at ih ⊢
    by_cases hb : b = c
    · -- the separator: an empty piece ends before it
      simp [hb, intercalate_cons_cons, ih]
    · -- any other byte starts the first piece
      cases L <;> simp_all [intercalate_cons_cons]

end Split

/-- `str::split` on an ASCII `char` pattern, given as its byte `c`: the pieces
between the occurrences of `c`. -/
def RustString.split (s : RustString) (c : UInt8) (hc : c < 0x80) : List RustString :=
  (s.bytes.splitOn c).attach.map fun p => ⟨p.1, utf8Valid_of_mem_splitOn hc s.valid p.2⟩

@[simp] theorem RustString.map_bytes_split (s : RustString) (c : UInt8) (hc : c < 0x80) :
    (s.split c hc).map RustString.bytes = s.bytes.splitOn c := by
  simp [RustString.split, Function.comp_def]

/-! ### The serialized path -/

theorem foldl_append_zero (path : List RustString) (acc : Bytes) :
    path.foldl (fun out part => out ++ part.bytes ++ [0]) acc =
      acc ++ path.flatMap fun part => part.bytes ++ [0] := by
  induction path generalizing acc with
  | nil => simp
  | cons part path ih => rw [List.foldl_cons, ih]; simp

/-- `serialize_property_path` joins the segments with single `0` bytes. -/
theorem serializePropertyPath_eq_intercalate (path : List RustString) :
    serializePropertyPath path = [0].intercalate (path.map RustString.bytes) := by
  unfold serializePropertyPath
  rw [foldl_append_zero, List.nil_append]
  cases path with
  | nil => rfl
  | cons part path =>
    have h := flatMap_append_singleton (0 : UInt8) ((part :: path).map RustString.bytes)
      (List.cons_ne_nil _ _)
    rw [List.flatMap_map] at h
    simp [h]

/-! ### The host calls -/

/-- The property host calls, with the bytes they pass. -/
inductive PropertyCall where
  /-- `proxy_get_property(path)`. -/
  | get (path : Bytes)
  /-- `proxy_set_property(path, value)`; `none` is the null pointer of `None`. -/
  | set (path : Bytes) (value : Option Bytes)
  deriving DecidableEq, Repr

/-- `hostcalls::get_property`: the call, and the result from the host's
`status` and the buffer it `returned` (`none` for a null pointer). -/
def Hostcalls.getProperty (path : List RustString) (status : Status) (returned : Option Bytes) :
    PropertyCall × Except Status (Option Bytes) :=
  (.get (serializePropertyPath path),
    match status with
    | .ok => .ok returned
    | .notFound => .ok none
    | e => .error e)

/-- `hostcalls::set_property`. -/
def Hostcalls.setProperty (path : List RustString) (value : Option Bytes) (status : Status) :
    PropertyCall × Except Status Unit :=
  (.set (serializePropertyPath path) value,
    match status with
    | .ok => .ok ()
    | e => .error e)

/-- `property::get_property`: the name split at its dots, an error logged away
under `get-property`. -/
def Property.getProperty (name : RustString) (status : Status) (returned : Option Bytes) :
    PropertyCall × Logged (Option Bytes) :=
  let (call, result) := Hostcalls.getProperty (name.split 0x2E (by decide)) status returned
  (call, Logged.logConcern "get-property" result)

/-- `property::set_property`, an error logged away under `set-property`. -/
def Property.setProperty (name : RustString) (value : Bytes) (status : Status) :
    PropertyCall × Logged Unit :=
  let (call, result) := Hostcalls.setProperty (name.split 0x2E (by decide)) (some value) status
  (call, Logged.logConcern "set-property" result)

/-- **What `get_property` hands back**: the host's bytes on `Ok`, nothing on
`NotFound`, and on any other status nothing, once the warning
`[concern-get-property] {status:?}` is logged, which panics when the logger
passes it on and the host refuses it. -/
theorem Property.getProperty_run (name : RustString) (status : Status) (returned : Option Bytes)
    (h : LogHost) :
    (Property.getProperty name status returned).2 h =
      match status with
      | .ok => .ok (returned, h)
      | .notFound => .ok (none, h)
      | e => (Logged.log .warn (concernMessage "get-property" e) h).map fun (_, h) => (none, h) := by
  cases status <;> simp only [Property.getProperty, Hostcalls.getProperty, Logged.logConcern] <;> rfl

/-- The path a property name is sent as: its bytes with every `.` replaced by `0`. -/
theorem serializePropertyPath_split (name : RustString) :
    serializePropertyPath (name.split 0x2E (by decide)) =
      name.bytes.map fun b => if b = 0x2E then 0 else b := by
  rw [serializePropertyPath_eq_intercalate, RustString.map_bytes_split, intercalate_splitOn_eq_map]

example : (Property.getProperty ⟨[0x61, 0x2E, 0x2E, 0x62], rfl⟩ .notFound none).1 =
    .get [0x61, 0, 0, 0x62] := rfl

/-- **Property paths.**  `serialize_property_path` writes the segments joined by
single `0` bytes, with no separator before the first or after the last, so the
empty path and the path of one empty segment are both empty; and
`property::get_property(name)` and `property::set_property(name, value)` send
the host the bytes of `name` with every `.` replaced by `0`, whatever it
answers. -/
theorem propertyPath_law :
    (∀ path : List RustString,
      serializePropertyPath path = [0].intercalate (path.map RustString.bytes)) ∧
    serializePropertyPath [] = [] ∧ serializePropertyPath [⟨[], rfl⟩] = [] ∧
    (∀ (name : RustString) (status : Status) (returned : Option Bytes),
      (Property.getProperty name status returned).1 =
        .get (name.bytes.map fun b => if b = 0x2E then 0 else b)) ∧
    (∀ (name : RustString) (value : Bytes) (status : Status),
      (Property.setProperty name value status).1 =
        .set (name.bytes.map fun b => if b = 0x2E then 0 else b) (some value)) :=
  ⟨serializePropertyPath_eq_intercalate, rfl, rfl,
    fun name _ _ => congrArg PropertyCall.get (serializePropertyPath_split name),
    fun name value _ => congrArg (PropertyCall.set · (some value)) (serializePropertyPath_split name)⟩

end ProxySdk
