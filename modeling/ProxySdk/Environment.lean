/-
ProxySdk/Environment.lean

The environment of `env.rs`: `read_environment` on `wasm32`, the lazily read
`ENV`, `var` and `vars_ordered`.

Each entry of the environment block is read as a C string, up to its first `0`
byte, decoded lossily and split at its first `=`; an entry without `=` is
dropped, so a name never holds `=`, and `var` answers with the last entry of a
name, as `HashMap::from_iter` keeps the last insert (`var_last`).  Conversely,
entries written as `NAME=VALUE` and terminated by `0`, with no `=` in a name and
no `0` byte in a name or value, are read back as exactly those names, each with
its value decoded lossily, so a value that is not UTF-8 does not hide its
variable (`readEnvironment_envEntry`).  A failed read leaves `ENV` empty once the
error is logged, which panics when the logger passes it on and the host refuses
it (`env_failed`).
-/
import ProxySdk.Utf8Lossy

namespace ProxySdk

/-! ### `env.rs` -/

/-- `split_once(c)` on bytes: the bytes before the first `c` and those after it. -/
def splitOnceBytes (c : UInt8) : Bytes → Option (Bytes × Bytes)
  | [] => none
  | d :: rest => if d = c then some ([], rest) else (splitOnceBytes c rest).map fun p => (d :: p.1, p.2)

theorem splitOnceBytes_eq {c : UInt8} :
    ∀ {bytes before after : Bytes}, splitOnceBytes c bytes = some (before, after) →
      bytes = before ++ c :: after ∧ c ∉ before
  | [], _, _, h => nomatch h
  | d :: rest, before, after, h => by
    unfold splitOnceBytes at h
    split at h
    · cases h
      exact ⟨by simp [*], List.not_mem_nil _⟩
    · obtain ⟨⟨before', after'⟩, h', he⟩ := Option.map_eq_some'.mp h
      cases he
      obtain ⟨rfl, hnot⟩ := splitOnceBytes_eq h'
      refine ⟨rfl, ?_⟩
      simp only [List.mem_cons, not_or]
      exact ⟨Ne.symm ‹_›, hnot⟩

/-- `str::split_once` at an ASCII character: both halves are text again. -/
def RustString.splitOnce (s : RustString) (c : UInt8) (hc : c < 0x80) :
    Option (RustString × RustString) :=
  match h : splitOnceBytes c s.bytes with
  | none => none
  | some (before, after) =>
    have hv : (utf8Valid before && utf8Valid after) = true := by
      rw [← utf8Valid_append_ascii hc, ← (splitOnceBytes_eq h).1]
      exact s.valid
    some (⟨before, (Bool.and_eq_true _ _).mp hv |>.1⟩, ⟨after, (Bool.and_eq_true _ _).mp hv |>.2⟩)

theorem RustString.splitOnce_bytes {s : RustString} {c : UInt8} {hc : c < 0x80}
    {name value : RustString} (h : s.splitOnce c hc = some (name, value)) :
    splitOnceBytes c s.bytes = some (name.bytes, value.bytes) := by
  unfold RustString.splitOnce at h
  split at h
  · cases h
  · rename_i before after hs
    cases h
    exact hs

/-- `CStr::from_ptr`: the bytes at an entry's pointer, up to the first `0`. -/
def cStr (bytes : Bytes) : Bytes := bytes.takeWhile (· != 0)

/-- `read_environment` on `wasm32`, once `environ_get` has filled the block:
each entry read as a C string, `to_string_lossy`'d and split at its first `=`,
an entry without `=` dropped. -/
def readEnvironment (entries : List Bytes) : List (RustString × RustString) :=
  entries.filterMap fun entry => (RustString.fromUtf8Lossy (cStr entry)).splitOnce 0x3D (by decide)

/-- `ENV`: what `read_environment` reads, or, when `environ_sizes_get` or
`environ_get` fails with an error whose `Debug` prints `e`, the empty
environment once `failed to read environment: {e:?}` is logged. -/
def env (read : Except String (List Bytes)) : Logged (List (RustString × RustString)) :=
  match read with
  | .ok entries => pure (readEnvironment entries)
  | .error e => do
    Logged.log .error ("failed to read environment: " ++ e)
    pure []

/-- **A failed read**: `ENV` is empty, and the error reaches the host once a
logger is set at any level; a host that refuses it makes the read panic. -/
theorem env_failed (e : String) (h : LogHost) :
    env (.error e) h =
      if h.logger.enabled .error then
        if h.answers.headD .ok = .ok then
          .ok ([], { h with
            answers := h.answers.tail
            sent := ⟨.error, "failed to read environment: " ++ e⟩ :: h.sent })
        else .error .logRefused
      else .ok ([], h) := by
  cases he : h.logger.enabled .error
  · simp only [env, bind, StateT.bind, Logged.log_of_disabled he]
    rfl
  · simp only [env, bind, StateT.bind, Logged.log_of_enabled he, if_true]
    split <;> rfl

/-- `ENV_MAP`: the entries collected into a `HashMap`, a later entry replacing
an earlier one of the same name. -/
def envMap (env : List (RustString × RustString)) : Map Bytes RustString :=
  env.foldl (fun m entry => m.insert entry.1.bytes entry.2) Map.empty

/-- `env::var`. -/
def var (env : List (RustString × RustString)) (name : RustString) : Option RustString :=
  envMap env name.bytes

/-- `env::vars_ordered`: every entry, in order. -/
def varsOrdered (env : List (RustString × RustString)) : List (RustString × RustString) := env

theorem foldl_insert_apply (env : List (RustString × RustString)) (m : Map Bytes RustString)
    (key : Bytes) :
    env.foldl (fun m entry => m.insert entry.1.bytes entry.2) m key =
      match (env.reverse.find? fun entry => entry.1.bytes = key) with
      | some entry => some entry.2
      | none => m key := by
  induction env generalizing m with
  | nil => rfl
  | cons entry env ih =>
    rw [List.foldl_cons, ih, List.reverse_cons, List.find?_append]
    cases env.reverse.find? fun entry => entry.1.bytes = key with
    | some _ => rfl
    | none =>
      by_cases hk : key = entry.1.bytes
      · simp [hk]
      · simp [hk, Ne.symm hk]

/-- **The environment**: every name is the text before the first `=` of its
entry, so no name holds `=`; and `var` answers with the value of the last entry
of that name. -/
theorem var_last (entries : List Bytes) (name : RustString) :
    (∀ entry ∈ readEnvironment entries, (0x3D : UInt8) ∉ entry.1.bytes) ∧
      var (readEnvironment entries) name =
        ((readEnvironment entries).reverse.find? fun entry => entry.1.bytes = name.bytes).map
          Prod.snd := by
  refine ⟨fun entry hentry => ?_, ?_⟩
  · obtain ⟨raw, -, hsplit⟩ := List.mem_filterMap.mp hentry
    exact (splitOnceBytes_eq (RustString.splitOnce_bytes hsplit)).2
  · rw [var, envMap, foldl_insert_apply]
    cases (readEnvironment entries).reverse.find? fun entry => entry.1.bytes = name.bytes <;> rfl

/-! ### Reading the environment back -/

/-- A `NAME=VALUE` entry of the environment block, terminated by `0`. -/
def envEntry (name : RustString) (value : Bytes) : Bytes := name.bytes ++ 0x3D :: value ++ [0]

/-- A C string stops at its terminator. -/
theorem cStr_append_zero {bytes : Bytes} (h : (0 : UInt8) ∉ bytes) (rest : Bytes) :
    cStr (bytes ++ 0 :: rest) = bytes := by
  induction bytes with
  | nil => rfl
  | cons b bytes ih =>
    simp only [List.mem_cons, not_or] at h
    show List.takeWhile _ (b :: (bytes ++ 0 :: rest)) = b :: bytes
    rw [List.takeWhile_cons_of_pos (by simpa using Ne.symm h.1)]
    exact congrArg _ (ih h.2)

theorem splitOnceBytes_append {c : UInt8} {before : Bytes} (after : Bytes) (h : c ∉ before) :
    splitOnceBytes c (before ++ c :: after) = some (before, after) := by
  induction before with
  | nil => simp [splitOnceBytes]
  | cons d before ih =>
    simp only [List.mem_cons, not_or] at h
    simp [splitOnceBytes, Ne.symm h.1, ih h.2]

theorem RustString.splitOnce_of_bytes {s : RustString} {c : UInt8} {hc : c < 0x80}
    {name value : RustString} (h : splitOnceBytes c s.bytes = some (name.bytes, value.bytes)) :
    s.splitOnce c hc = some (name, value) := by
  unfold RustString.splitOnce
  split
  · rename_i hnone
    rw [h] at hnone
    cases hnone
  · rename_i before after hsome
    rw [h] at hsome
    cases hsome
    rfl

/-- **Reading the environment back**: entries written as `NAME=VALUE` and
terminated by `0`, with no `=` in any name and no `0` byte in a name or value,
are read back as exactly those names, in their order, each with its value
decoded lossily: a value may hold `=`, and a value that is not UTF-8 does not
hide its name. -/
theorem readEnvironment_envEntry (env : List (RustString × Bytes))
    (h : ∀ entry ∈ env, (0x3D : UInt8) ∉ entry.1.bytes ∧ (0 : UInt8) ∉ entry.1.bytes ∧
      (0 : UInt8) ∉ entry.2) :
    readEnvironment (env.map fun entry => envEntry entry.1 entry.2) =
      env.map fun entry => (entry.1, RustString.fromUtf8Lossy entry.2) := by
  induction env with
  | nil => rfl
  | cons entry env ih =>
    obtain ⟨name, value⟩ := entry
    obtain ⟨heq, hname0, hvalue0⟩ := h _ (List.mem_cons_self _ _)
    have hname : utf8Valid (name.bytes ++ [0x3D]) = true := by
      rw [utf8Valid_append_ascii (by decide), name.valid]
      rfl
    -- the C string is the entry without its terminator
    have hcstr : cStr (envEntry name value) = name.bytes ++ 0x3D :: value := by
      rw [envEntry, cStr_append_zero]
      simp only [List.mem_append, List.mem_cons, not_or]
      exact ⟨hname0, by decide, hvalue0⟩
    have hsplit : (RustString.fromUtf8Lossy (cStr (envEntry name value))).splitOnce 0x3D (by decide) =
        some (name, RustString.fromUtf8Lossy value) := by
      apply RustString.splitOnce_of_bytes
      show splitOnceBytes _ (utf8Lossy (cStr (envEntry name value))) = _
      rw [hcstr, ← List.singleton_append, ← List.append_assoc, utf8Lossy_append_of_valid _ hname,
        List.append_assoc, List.singleton_append]
      exact splitOnceBytes_append _ heq
    have ih' := ih fun entry hentry => h entry (List.mem_cons_of_mem _ hentry)
    simp only [readEnvironment, List.map_cons, List.filterMap_cons, hsplit] at ih' ⊢
    rw [ih']

theorem readEnvironment_envEntry_not_utf8 :
    (∀ entry ∈ [((⟨[0x41], by decide⟩ : RustString), ([0x3D, 0xFF] : Bytes))],
        (0x3D : UInt8) ∉ entry.1.bytes ∧ (0 : UInt8) ∉ entry.1.bytes ∧ (0 : UInt8) ∉ entry.2) ∧
      readEnvironment ([((⟨[0x41], by decide⟩ : RustString), ([0x3D, 0xFF] : Bytes))].map
          fun entry => envEntry entry.1 entry.2) =
        [((⟨[0x41], by decide⟩ : RustString), ([0x3D, 0xFF] : Bytes))].map
          fun entry => (entry.1, RustString.fromUtf8Lossy entry.2) :=
  ⟨by decide, readEnvironment_envEntry _ (by decide)⟩

end ProxySdk
