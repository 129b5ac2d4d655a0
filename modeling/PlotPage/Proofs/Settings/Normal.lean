import Mathlib.Logic.Relation
import PlotPage.Proofs.Number.Text
import PlotPage.Proofs.Settings
import PlotPage.Proofs.Value.Parts

/-!
# Settings read again

Settings can be written as a mapping with one section each (`Settings.toValue`), and reading that
mapping gives the same settings.  Every field is stored in its final form, and reading a final form
changes nothing: a text is its own plain form, the level is the name of a level and so in upper case,
and the name of the log file is not empty, because only the empty text has an empty plain form
(`Value.plain?_eq_some_empty_iff`).

A mapping is read by section and by field, so whatever else is in it may change (`Edit`).  A section
that is missing counts as an empty one and may be written as such.
-/

namespace PlotPage

/-! ### Texts of values -/

theorem append_ne_empty {s : String} (h : s ≠ "") (t : String) : s ++ t ≠ "" :=
  fun hempty => h (String.append_eq_empty_iff.mp hempty).1

theorem Date.shown_ne_empty (d : Date) : d.shown ≠ "" := by
  iterate 6 refine append_ne_empty ?_ _
  decide

theorem Date.text_ne_empty (d : Date) : d.text ≠ "" := by
  intro h
  have hdash := (String.append_eq_empty_iff.mp (String.append_eq_empty_iff.mp h).1).2
  exact absurd hdash (by decide)

theorem DateTime.shown_ne_empty (m : DateTime) : m.shown ≠ "" := by
  iterate 3 refine append_ne_empty ?_ _
  decide

theorem DateTime.text_ne_empty (m : DateTime) (separator : String) : m.text separator ≠ "" := by
  iterate 3 refine append_ne_empty ?_ _
  exact m.date.text_ne_empty

namespace Value

/-- No value is shown as the empty text. -/
theorem shownIn?_ne_empty (around : List Nat) (v : Value) : v.shownIn? around ≠ some "" := by
  have hsome : ∀ {t : String}, t ≠ "" → some t ≠ some "" := fun ht h => ht (Option.some.inj h)
  cases v with
  | null => exact hsome (by decide)
  | bool b => cases b <;> exact hsome (by decide)
  | int i =>
    rw [shownIn?, intText?]
    split
    · exact hsome (intText_ne_empty i)
    · simp
  | real d => exact hsome d.text_ne_empty
  | text s => exact hsome (by simp [Text.quote, Text.quoteChars])
  | bytes bs => exact hsome (by simp [Text.quoteBytes])
  | date d => exact hsome d.shown_ne_empty
  | dateTime m => exact hsome m.shown_ne_empty
  | set items =>
    rw [shownIn?]
    split <;> simp
  | tuple items mark =>
    rw [shownIn?]
    split
    · simp
    · rw [ne_eq, Option.map_eq_some_iff]
      rintro ⟨ts, -, h⟩
      split at h <;> simp at h
  | list | map =>
    rw [shownIn?]
    split <;> simp

/-- Only the empty text has an empty plain form. -/
theorem plain?_eq_some_empty_iff {v : Value} : v.plain? = some "" ↔ v = .text "" := by
  cases v with
  | text s => simp [plain?]
  | date d => exact iff_of_false (fun h => d.text_ne_empty (Option.some.inj h)) (by simp)
  | dateTime m => exact iff_of_false (fun h => m.text_ne_empty " " (Option.some.inj h)) (by simp)
  | _ => exact iff_of_false (shownIn?_ne_empty [] _) (by simp)

end Value

namespace Settings

/-! ### The written form -/

/-- The fields of settings, each in its section. -/
def entries (s : Settings) : List (Value × Value) :=
  [(.text "runner", .map
      [(.text "executable", .text s.executable), (.text "timeout_s", .real s.timeout)]),
    (.text "terminal", .map
      [(.text "device_type", .text s.device), (.text "output_path", .text s.output)]),
    (.text "layout", .map [(.text "prefer_columns", .bool s.prefersColumns)]),
    (.text "logging", .map
      [(.text "level", .text s.level), (.text "json", .bool s.json),
        (.text "file", s.logFile.elim .null .text)])]

def toValue (s : Settings) : Value := .map s.entries

/-- The texts of settings are final: the level is in upper case, and the log file has a name if there
is one. -/
structure Normal (s : Settings) : Prop where
  level : Text.upper s.level = s.level
  logFile : s.logFile ≠ some ""

variable {s : Settings} {ns : List Notice} {v : Value} {es : List (Value × Value)}

theorem fileName_ne_empty {file : Option String} (h : fileName v = .ok file) : file ≠ some "" := by
  rw [fileName] at h
  split at h
  · next htruthy =>
    simp only [bind_eq_ok_iff, pure_eq_ok_iff] at h
    obtain ⟨name, hname, rfl⟩ := h
    intro hempty
    rw [Option.some.inj hempty, Value.plain] at hname
    split at hname
    · next t ht =>
      rw [Except.ok.inj hname] at ht
      rw [Value.plain?_eq_some_empty_iff.mp ht] at htruthy
      exact absurd htruthy (by decide)
    · cases hname
  · rw [← Except.ok.inj h]
    simp

theorem fileName_elim {file : Option String} (h : file ≠ some "") :
    fileName (file.elim .null .text) = .ok file := by
  cases file with
  | none => rfl
  | some name =>
    have htruthy : (Value.text name).isTruthy = true := by
      simpa [Value.isTruthy] using h
    show fileName (.text name) = _
    rw [fileName, if_pos htruthy]
    rfl

theorem build_map_eq_ok_iff {mark : Option Nat} : build (.map es mark) = .ok (s, ns) ↔
    read es = .ok s ∧ s.check = .ok () ∧ ns = s.warnings := by
  simp only [build, bind_eq_ok_iff, pure_eq_ok_iff, mapError_eq_ok_iff, Prod.mk.injEq]
  constructor
  · rintro ⟨s', hread, u, hcheck, rfl, rfl⟩
    exact ⟨hread, hcheck, rfl⟩
  · rintro ⟨hread, hcheck, rfl⟩
    exact ⟨s, hread, (), hcheck, rfl, rfl⟩

theorem exists_map_of_build (h : build v = .ok (s, ns)) : ∃ es mark, v = .map es mark := by
  cases v with
  | map es mark => exact ⟨es, mark, rfl⟩
  | _ => exact absurd h (by simp [build])

theorem normal_of_build (h : build v = .ok (s, ns)) : s.Normal := by
  obtain ⟨level, hlevel⟩ := (checked_of_build h).level
  obtain ⟨es, mark, rfl⟩ := exists_map_of_build h
  obtain ⟨hread, -, -⟩ := build_map_eq_ok_iff.mp h
  refine ⟨by rw [hlevel, upper_name], ?_⟩
  simp only [read, bind_eq_ok_iff, pure_eq_ok_iff] at hread
  obtain ⟨_, -, _, -, _, -, _, -, _, -, _, -, _, -, _, -, _, -, _, -, _, -, _, -, _, -, file, hfile,
    rfl⟩ := hread
  exact fileName_ne_empty hfile

/-- What is final is read as it is. -/
theorem read_entries (h : s.Normal) : read s.entries = .ok s := by
  have hfile := fileName_elim h.logFile
  simp only [read, runnerFields, required, section?, entries, Description.fieldOrNull,
    Value.field_cons_text, Value.field_nil, String.reduceEq, if_true, if_false, Option.getD_some,
    ok_bind, pure_bind, hfile]
  show Except.ok { s with level := Text.upper s.level } = .ok s
  rw [h.level]

/-! ### What is not read -/

/-- The sections of settings. -/
inductive Section where
  | runner
  | terminal
  | layout
  | logging
  deriving DecidableEq

namespace Section

def name : Section → String
  | .runner => "runner"
  | .terminal => "terminal"
  | .layout => "layout"
  | .logging => "logging"

/-- The names of the fields of a section. -/
def fieldNames : Section → List String
  | .runner => ["executable", "timeout_s"]
  | .terminal => ["device_type", "output_path"]
  | .layout => ["prefer_columns"]
  | .logging => ["level", "json", "file"]

/-- The fields that a section holds. -/
def fields (part : Section) (es : List (Value × Value)) : Except Fault (List (Value × Value)) :=
  match part with
  | .runner => runnerFields es
  | part => section? es part.name

theorem name_injective {a b : Section} (h : a.name = b.name) : a = b := by
  cases a <;> cases b <;> first | rfl | exact absurd h (by decide)

/-- A section is read from the field under its name. -/
theorem fields_congr {es es' : List (Value × Value)} {part : Section}
    (h : Value.field es part.name = Value.field es' part.name) : part.fields es = part.fields es' := by
  cases part with
  | runner =>
    have hfield : Value.field es "runner" = Value.field es' "runner" := h
    simp only [fields, runnerFields, required, hfield]
  | _ => simp only [fields, section?, h]

theorem fields_of_map {es fields : List (Value × Value)} {mark : Option Nat} {part : Section}
    (h : Value.field es part.name = some (.map fields mark)) : part.fields es = .ok fields := by
  cases part with
  | runner =>
    have hfield : Value.field es "runner" = some (.map fields mark) := h
    simp only [Section.fields, runnerFields, required, hfield]
    rfl
  | _ => simp only [Section.fields, section?, h, Option.getD_some]

/-- A section that is optional may be missing. -/
theorem fields_of_null {es : List (Value × Value)} {part : Section} (hpart : part ≠ .runner)
    (h : Value.field es part.name = none ∨ Value.field es part.name = some .null) :
    part.fields es = .ok [] := by
  have hnull : (Value.field es part.name).getD .null = .null := by
    rcases h with h | h <;> rw [h] <;> rfl
  cases part with
  | runner => exact absurd rfl hpart
  | _ => simp only [Section.fields, section?, hnull]

end Section

/-- An entry is stored under a key, or the key is taken out. -/
def put (es : List (Value × Value)) (key : Value) (change : Option Value) : List (Value × Value) :=
  match change with
  | some v => Value.insert es key v
  | none => Value.remove es key

theorem field_put_of_ne {key : Value} {name : String} (h : key ≠ .text name)
    (change : Option Value) : Value.field (put es key change) name = Value.field es name := by
  cases change with
  | some v => exact Value.field_insert_of_ne h v es
  | none => exact Value.field_remove_of_ne h es

/-- A change to a mapping of settings that concerns none of their fields. -/
inductive Edit : Value → Value → Prop
  /-- Another key is stored or taken out. -/
  | key {es : List (Value × Value)} {mark mark' : Option Nat} {key : Value} {change : Option Value}
      (h : ∀ part : Section, key ≠ .text part.name) :
      Edit (.map es mark) (.map (put es key change) mark')
  /-- Another key is stored in a section or taken out of it. -/
  | field {es fields : List (Value × Value)} {mark mark' inner inner' : Option Nat} {key : Value}
      {change : Option Value} (part : Section)
      (hpart : Value.field es part.name = some (.map fields inner))
      (h : ∀ name ∈ part.fieldNames, key ≠ .text name) :
      Edit (.map es mark)
        (.map (Value.insert es (.text part.name) (.map (put fields key change) inner')) mark')
  /-- An optional section that is missing is written as nothing. -/
  | null {es : List (Value × Value)} {mark mark' : Option Nat} (part : Section)
      (hpart : part ≠ .runner) (h : Value.field es part.name = none) :
      Edit (.map es mark) (.map (Value.insert es (.text part.name) .null) mark')
  /-- An optional section that is missing is written as an empty mapping. -/
  | empty {es : List (Value × Value)} {mark mark' inner : Option Nat} (part : Section)
      (hpart : part ≠ .runner) (h : Value.field es part.name = none) :
      Edit (.map es mark) (.map (Value.insert es (.text part.name) (.map [] inner)) mark')

/-- Two readings of a section fail alike or hold the same under the given names. -/
inductive AgreeOn (names : List String) :
    Except Fault (List (Value × Value)) → Except Fault (List (Value × Value)) → Prop
  | error (f : Fault) : AgreeOn names (.error f) (.error f)
  | ok {fields fields' : List (Value × Value)}
      (h : ∀ name ∈ names, Value.field fields name = Value.field fields' name) :
      AgreeOn names (.ok fields) (.ok fields')

theorem AgreeOn.refl (names : List String) (x : Except Fault (List (Value × Value))) :
    AgreeOn names x x := by
  cases x with
  | error f => exact .error f
  | ok fields => exact .ok fun _ _ => rfl

/-- What only reads these names goes on in the same way. -/
theorem AgreeOn.bind {names : List String} {x y : Except Fault (List (Value × Value))} {α : Type}
    {f g : List (Value × Value) → Except Fault α} (h : AgreeOn names x y)
    (hfg : ∀ fields fields', (∀ name ∈ names, Value.field fields name = Value.field fields' name) →
      f fields = g fields') : (x >>= f) = (y >>= g) := by
  cases h with
  | error e => rfl
  | ok h => exact hfg _ _ h

/-- Only the fields of the four sections are read. -/
theorem read_congr {es es' : List (Value × Value)}
    (h : ∀ part : Section, AgreeOn part.fieldNames (part.fields es) (part.fields es')) :
    read es = read es' := by
  refine (h .runner).bind fun runner runner' hrunner => ?_
  simp only [Section.fieldNames, List.forall_mem_cons] at hrunner
  simp only [required, hrunner]
  refine bind_congr fun _ => bind_congr fun executable => bind_congr fun _ =>
    bind_congr fun timeout => ?_
  refine (h .terminal).bind fun terminal terminal' hterminal => ?_
  simp only [Section.fieldNames, List.forall_mem_cons] at hterminal
  simp only [Description.fieldOrNull, hterminal]
  refine bind_congr fun device => bind_congr fun output => ?_
  refine (h .layout).bind fun layout layout' hlayout => ?_
  simp only [Section.fieldNames, List.forall_mem_cons] at hlayout
  simp only [hlayout]
  refine bind_congr fun prefersColumns => ?_
  refine (h .logging).bind fun logging logging' hlogging => ?_
  simp only [Section.fieldNames, List.forall_mem_cons] at hlogging
  simp only [hlogging]

theorem build_congr {es es' : List (Value × Value)} (h : read es = read es')
    (mark mark' : Option Nat) : build (.map es mark) = build (.map es' mark') := by
  simp only [build, h]

/-- When a section is stored, only its own fields can be read differently. -/
theorem read_insert {part : Section} {v : Value} {es : List (Value × Value)}
    (h : AgreeOn part.fieldNames (part.fields es)
      (part.fields (Value.insert es (.text part.name) v))) :
    read es = read (Value.insert es (.text part.name) v) := by
  refine read_congr fun other => ?_
  by_cases heq : other = part
  · rw [heq]
    exact h
  · have hname : Value.text part.name ≠ .text other.name := fun htext =>
      heq (Section.name_injective (Value.text.inj htext)).symm
    rw [Section.fields_congr (Value.field_insert_of_ne hname v es)]
    exact .refl _ _

/-- A change that concerns no field leaves the settings as they are. -/
theorem build_edit {v w : Value} (h : Edit v w) : build v = build w := by
  cases h with
  | key h =>
    refine build_congr (read_congr fun part => ?_) _ _
    rw [Section.fields_congr (field_put_of_ne (h part) _)]
    exact .refl _ _
  | field part hpart h =>
    refine build_congr (read_insert ?_) _ _
    rw [Section.fields_of_map hpart, Section.fields_of_map (Value.field_insert_self _ _ _)]
    exact .ok fun name hname => (field_put_of_ne (h name hname) _).symm
  | null part hpart h =>
    refine build_congr (read_insert ?_) _ _
    rw [Section.fields_of_null hpart (Or.inl h),
      Section.fields_of_null hpart (Or.inr (Value.field_insert_self _ _ _))]
    exact .refl _ _
  | empty part hpart h =>
    refine build_congr (read_insert ?_) _ _
    rw [Section.fields_of_null hpart (Or.inl h),
      Section.fields_of_map (Value.field_insert_self _ _ _)]
    exact .refl _ _

/-- **Reading settings is a normalisation.**  The written form of what was read is read as the same
settings, and only the fields of the four sections matter. -/
theorem build_normal {v : Value} {s : Settings} {ns : List Notice} (h : build v = .ok (s, ns)) :
    build s.toValue = .ok (s, ns) ∧ ∀ w, Relation.EqvGen Edit v w → build w = .ok (s, ns) := by
  constructor
  · obtain ⟨es, mark, rfl⟩ := exists_map_of_build h
    obtain ⟨-, hcheck, hns⟩ := build_map_eq_ok_iff.mp h
    exact build_map_eq_ok_iff.mpr ⟨read_entries (normal_of_build h), hcheck, hns⟩
  · intro w hw
    rw [← h]
    clear h
    induction hw with
    | rel v w hedit => exact (build_edit hedit).symm
    | refl v => rfl
    | symm v w _ ih => exact ih.symm
    | trans u v w _ _ huv hvw => exact hvw.trans huv

/-- A time limit in text, a level in lower case and a number as the name of the log file.  Then a key
is added and the missing layout is written as nothing. -/
theorem build_normal_mixed :
    ∃ v s ns w, build v = .ok (s, ns) ∧ s.level = "DEBUG" ∧ s.logFile = some "7" ∧
      build s.toValue = .ok (s, ns) ∧ Relation.EqvGen Edit v w ∧ build w = .ok (s, ns) := by
  obtain ⟨es, hes⟩ : ∃ es : List (Value × Value), es =
    [(.text "runner", .map [(.text "executable", .text "gnuplot"), (.text "timeout_s", .text "30")]),
      (.text "logging", .map [(.text "level", .text "debug"), (.text "file", .int 7)])] := ⟨_, rfl⟩
  have hbuild := toOption_eq_some_iff.mp (by rw [hes]; decide +kernel : (build (.map es)).toOption =
    some (⟨"gnuplot", .ofInt 30, "", "", true, "DEBUG", false, some "7"⟩, []))
  obtain ⟨hagain, hsame⟩ := build_normal hbuild
  have hnote : ∀ part : Section, Value.text "note" ≠ .text part.name := by
    intro part heq
    cases part <;> exact absurd (Value.text.inj heq) (by decide)
  have hlayout : Value.field (put es (.text "note") (some (.int 1))) Section.layout.name = none := by
    rw [field_put_of_ne (hnote .layout), hes]
    simp [Section.name, Value.field_cons_text, Value.field_nil]
  have hkey : Edit (.map es) (.map (put es (.text "note") (some (.int 1)))) := .key hnote
  have hnull : Edit (.map (put es (.text "note") (some (.int 1)))) (.map (Value.insert
    (put es (.text "note") (some (.int 1))) (.text Section.layout.name) .null)) :=
    .null .layout (by decide) hlayout
  have hedits := Relation.EqvGen.trans _ _ _ (.rel _ _ hkey) (.rel _ _ hnull)
  exact ⟨_, _, _, _, hbuild, rfl, rfl, hagain, hedits, hsame _ hedits⟩

end Settings

end PlotPage
