import PortKnock.Config.Lookup

/-!
# What is wrong with a file stays in sight

Loading a named configuration is reading one path and judging what comes of it
(`recorded_some`): no other file is looked at, neither before nor after.  Without
a name, the common locations are asked in their order until one of them is a
file, and from there on it is as if that one had been named; the defaults are
for the case that none of them is (`recorded_none`), which is also the only one
with a warning in the log.
-/

namespace PortKnock

/-! ## Files of a tree -/

namespace FileTree

variable {root : FileTree} {workingDirectory : List String} {path : String}

theorem read_eq_ok_iff {content : ByteArray} :
    root.read workingDirectory path = .ok content ↔
      path.contains '\x00' = false ∧ root.find workingDirectory path = .ok (.file content) := by
  rw [read]
  cases hzero : path.contains '\x00' with
  | true => simp
  | false =>
    cases hfind : root.find workingDirectory path with
    | error error => simp
    | ok node => cases node <;> simp

/-- What is a file leads to a file, and not to a directory. -/
theorem isFile_iff :
    root.isFile workingDirectory path = true ↔
      path.contains '\x00' = false ∧
        ∃ content, root.find workingDirectory path = .ok (.file content) := by
  rw [← exists_and_left]
  simp only [← read_eq_ok_iff]
  rw [isFile]
  cases root.read workingDirectory path <;> simp

end FileTree

namespace Config

/-! ## Loading on record -/

/-- Files that stay as they are, for programs that have other effects. -/
def fixed {m : Type → Type} [Monad m] (files : FileAccess Id) : FileAccess m where
  isFile path := return files.isFile path
  read path := return files.read path

/-- What loading comes to, and what it logs, oldest line first. -/
def recorded (files : FileAccess Id) (path? : Option String) :
    Except LoadError Config × List Log.Line :=
  (load (fixed files) .recorder path?).run []

/-- The lines among these that warn. -/
def warnings (lines : List Log.Line) : List Log.Line :=
  lines.filter (·.level = .warn)

/-! ## A named file -/

/-- What becomes of a named file, given what reading it yields. -/
def outcome (path : String) : Except FileTree.ReadError ByteArray → Except LoadError Config
  | .error cause => .error (.unreadable path cause)
  | .ok content =>
    match String.fromUTF8? content with
    | none => .error (.unreadable path .notUtf8)
    | some text => (parse text).mapError .rejected

/-- What is logged of a named file: one line once it is loaded. -/
def linesOf (path : String) : Except LoadError Config → List Log.Line
  | .ok _ => [loadedLine path]
  | .error _ => []

/-- To load a named file is to read it, and nothing else. -/
theorem recorded_some (files : FileAccess Id) (path : String) :
    recorded files (some path) =
      (outcome path (files.read path), linesOf path (outcome path (files.read path))) := by
  have hrecorded : recorded files (some path) = (loadFile (fixed files) .recorder path).run [] :=
    rfl
  have hread : (fixed files : FileAccess (StateM (List Log.Line))).read path =
      pure (files.read path) := rfl
  rw [hrecorded, loadFile, FileAccess.readText, hread, pure_bind]
  cases files.read path with
  | error cause => rfl
  | ok content =>
    cases hutf8 : String.fromUTF8? content with
    | none =>
      simp only [outcome, hutf8]
      rfl
    | some text =>
      cases hparse : parse text with
      | error cause =>
        simp only [outcome, hutf8, hparse, pure_bind]
        rfl
      | ok config =>
        simp only [outcome, hutf8, hparse, pure_bind]
        rfl

theorem outcome_eq_ok_iff {path : String} {yielded : Except FileTree.ReadError ByteArray}
    {config : Config} :
    outcome path yielded = .ok config ↔
      ∃ content text, yielded = .ok content ∧ String.fromUTF8? content = some text ∧
        parse text = .ok config := by
  constructor
  · intro h
    unfold outcome at h
    split at h
    · cases h
    · split at h
      · cases h
      · rename_i text htext
        cases hparse : parse text with
        | error cause =>
          rw [hparse] at h
          cases h
        | ok config' =>
          rw [hparse] at h
          cases h
          exact ⟨_, _, rfl, htext, hparse⟩
  · rintro ⟨content, text, rfl, htext, hparse⟩
    simp only [outcome, htext, hparse]
    rfl

/-- Every error in loading is one of the configuration. -/
theorem exists_error_of_ne_ok {result : Except LoadError Config}
    (hresult : ∀ config, result ≠ .ok config) :
    ∃ error, result = .error error ∧ error.failure.kind = .config := by
  cases result with
  | error error => exact ⟨error, rfl, rfl⟩
  | ok config => exact absurd rfl (hresult config)

/-- Nothing that comes from a file is warned of. -/
theorem warnings_recorded_some (files : FileAccess Id) (path : String) :
    warnings (recorded files (some path)).2 = [] := by
  rw [recorded_some]
  cases outcome path (files.read path) <;> rfl

/-! ## The common locations -/

/-- The locations are asked in their order, and none behind the first file. -/
theorem run_firstFile? (files : FileAccess Id) (paths : List String) (lines : List Log.Line) :
    (firstFile? (fixed files : FileAccess (StateM (List Log.Line))) paths).run lines =
      (paths.find? files.isFile, lines) := by
  induction paths with
  | nil => rfl
  | cons path paths ih =>
    have hisFile : (fixed files : FileAccess (StateM (List Log.Line))).isFile path =
        pure (files.isFile path) := rfl
    rw [firstFile?, hisFile, pure_bind, List.find?_cons]
    cases files.isFile path with
    | true => rfl
    | false => exact ih

/-- Without a name, the first location that is a file counts as named, and without such a location
the defaults count, with a warning. -/
theorem recorded_none (files : FileAccess Id) :
    recorded files none =
      match commonLocations.find? files.isFile with
      | some path => recorded files (some path)
      | none => (.ok {}, [defaultsLine]) := by
  have hfirst := run_firstFile? files commonLocations []
  rw [recorded, load, StateT.run_bind, hfirst]
  cases commonLocations.find? files.isFile <;> rfl

/-! ## No silent fallback -/

/-- What loading does in every state of the files.  A configuration that is named comes from its
file or not at all, whatever other files there are; without a name the first common location that
is a file counts as named, whatever is in it; and the defaults come, with one warning in the log,
if and only if no common location is a file. -/
theorem load_without_fallback (files : FileAccess Id) :
    (∀ path,
      (∀ others : FileAccess Id, others.read path = files.read path →
        recorded others (some path) = recorded files (some path)) ∧
      (∀ config, (recorded files (some path)).1 = .ok config ↔
        ∃ content text, files.read path = .ok content ∧
          String.fromUTF8? content = some text ∧ parse text = .ok config) ∧
      ((∀ config, (recorded files (some path)).1 ≠ .ok config) →
        ∃ error, (recorded files (some path)).1 = .error error ∧
          error.failure.kind = .config)) ∧
    (∀ before path after, commonLocations = before ++ path :: after →
      (∀ other ∈ before, files.isFile other = false) → files.isFile path = true →
        recorded files none = recorded files (some path)) ∧
    ((recorded files none).1 = .ok {} ∧ (warnings (recorded files none).2).length = 1 ↔
      ∀ location ∈ commonLocations, files.isFile location = false) ∧
    ∀ (root : FileTree) (workingDirectory : List String) (path : String),
      files = root.access workingDirectory →
        (files.isFile path = true ↔ path.contains '\x00' = false ∧
          ∃ content, root.find workingDirectory path = .ok (.file content)) := by
  refine ⟨fun path => ⟨fun others hread => ?_, fun config => ?_, exists_error_of_ne_ok⟩, ?_, ?_,
    ?_⟩
  · rw [recorded_some, recorded_some, hread]
  · rw [recorded_some]
    exact outcome_eq_ok_iff
  · -- the first file among the locations
    intro before path after hlocations hbefore hpath
    have hfirst : commonLocations.find? files.isFile = some path := by
      rw [hlocations]
      refine List.find?_eq_some_iff_append.mpr ⟨hpath, before, after, rfl, fun other hmem => ?_⟩
      rw [hbefore other hmem]
      rfl
    rw [recorded_none, hfirst]
  · rw [recorded_none]
    cases hfirst : commonLocations.find? files.isFile with
    | some path =>
      -- a file has been taken, and without a warning
      refine iff_of_false (fun h => ?_) (fun hnone => ?_)
      · rw [warnings_recorded_some] at h
        exact absurd h.2 (by decide)
      · have hpath := hnone path (List.mem_of_find?_eq_some hfirst)
        rw [List.find?_some hfirst] at hpath
        cases hpath
    | none =>
      refine iff_of_true ⟨rfl, rfl⟩ fun location hmem => ?_
      exact Bool.eq_false_iff.mpr (List.find?_eq_none.mp hfirst location hmem)
  · rintro root workingDirectory path rfl
    exact FileTree.isFile_iff

/-- The last common location is the only file among them, and it is cut off: it counts, and its
failure is the result, though a file that is right is around. -/
theorem load_without_fallback_of_cut_file :
    let files : FileAccess Id := {
      isFile := fun path => path == "/usr/local/etc/knockd/knockd.json" || path == "right.json"
      read := fun path =>
        if path = "/usr/local/etc/knockd/knockd.json" then .ok "\x7b".toUTF8
        else if path = "right.json" then .ok "\x7b\x7d".toUTF8
        else .error (.system .isADirectory) }
    recorded files none = recorded files (some "/usr/local/etc/knockd/knockd.json") ∧
      (∃ error, (recorded files none).1 = .error error ∧ error.failure.kind = .config) ∧
      (recorded files (some "right.json")).1 = .ok {} := by
  intro files
  obtain ⟨hnamed, hfirst, -, -⟩ := load_without_fallback files
  have hnone : recorded files none = recorded files (some "/usr/local/etc/knockd/knockd.json") :=
    hfirst ["knockd.json", "/etc/knockd/knockd.json"] _ [] rfl (by simp [files]) (by simp [files])
  have hutf8 (text : String) : String.fromUTF8? text.toUTF8 = some text := dif_pos text.isValidUTF8
  refine ⟨hnone, ?_, ?_⟩
  · rw [hnone]
    refine (hnamed _).2.2 fun config hconfig => ?_
    obtain ⟨content, text, hread, htext, hparse⟩ := ((hnamed _).2.1 config).mp hconfig
    obtain rfl : "\x7b".toUTF8 = content := Except.ok.inj hread
    obtain rfl : "\x7b" = text := Option.some.inj ((hutf8 _).symm.trans htext)
    have hrefused : (parse "\x7b").toOption = none := by cbv
    rw [hparse] at hrefused
    cases hrefused
  · exact ((hnamed _).2.1 _).mpr ⟨_, _, rfl, hutf8 _, by cbv⟩

end Config

end PortKnock
