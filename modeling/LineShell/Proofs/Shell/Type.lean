import LineShell.Builtin.Probe
import LineShell.Proofs.Builtin.Results
import LineShell.Proofs.Environment.Search
import LineShell.Proofs.Shell.Journal

/-!
# What `type` says

`type` prints a line for each name, and the line tells what executing a command of that name does
(`type_tells_dispatch`): it runs the builtin that was registered last under the name, it starts the
program at the path in the line, or the name is unknown. Lines and executions are told apart on
their own: lines by their texts, executions by what they do to the session, in particular by the
programs that they try to start (`Session.starts`).
-/

namespace LineShell

/-! ## Lines -/

namespace Builtin

/-- A program is meant by a path with a slash. -/
def Meaning.Proper : Meaning → Prop
  | .builtin => True
  | .program path => '/' ∈ path
  | .nothing => True

/-- What stands behind the name in the line for a meaning. -/
def Meaning.tail : Meaning → Text
  | .builtin => " is a shell builtin".toList
  | .program path => " is ".toList ++ path
  | .nothing => " not found".toList

/-- The meaning that is told by what stands behind the name. -/
def Meaning.ofTail (t : Text) : Meaning :=
  if '/' ∈ t then .program (t.drop 4)
  else if t = " not found".toList then .nothing
  else .builtin

theorem line_eq (name : Text) (m : Meaning) : m.line name = name ++ m.tail := by
  cases m with
  | builtin => rfl
  | program path => exact List.append_assoc _ _ _
  | nothing => rfl

theorem ofTail_tail {m : Meaning} (h : m.Proper) : Meaning.ofTail m.tail = m := by
  cases m with
  | builtin => rfl
  | program path => exact if_pos (List.mem_append_right _ h)
  | nothing => rfl

/-- Lines for a name tell its meanings apart. -/
theorem line_inj {name : Text} {m m' : Meaning} (h : m.Proper) (h' : m'.Proper) :
    m.line name = m'.line name ↔ m = m' := by
  constructor
  · intro hline
    rw [line_eq, line_eq, List.append_cancel_left_eq] at hline
    rw [← ofTail_tail h, hline, ofTail_tail h']
  · rintro rfl
    rfl

end Builtin

/-! ## Started programs -/

namespace Session

/-- The program that an event says is being started, with its arguments. -/
def startOf : Event → Option (Text × List Text)
  | .starting path argv => some (path, argv)
  | _ => none

/-- The programs that the shell has tried to start so far. -/
def starts (s : Session) : List (Text × List Text) := s.journal.filterMap startOf

end Session

namespace Shell

variable {sh : Shell} {s : Session}

/-! ## Executions -/

/-- Commands of the name run the builtin. -/
def RunsBuiltin (sh : Shell) (s : Session) (name : Text) (b : Builtin) : Prop :=
  ∀ args target, sh.execute ⟨name, args, target⟩ s
    = sh.runBuiltin b args target (s.takenUp ⟨name, args, target⟩)

/-- Commands of the name start the program at the path, with the name as the first of its
arguments, unless their target cannot be opened. -/
structure StartsProgram (sh : Shell) (s : Session) (name path : Text) : Prop where
  starts : ∀ args target o files, s.files.openTarget s.cwd target = .ok (o, files) →
    (sh.execute ⟨name, args, target⟩ s).2.starts = s.starts ++ [(path, name :: args)]
  outcome : ∀ args target o files, s.files.openTarget s.cwd target = .ok (o, files) →
    (sh.execute ⟨name, args, target⟩ s).1
      = match files.load s.cwd (heldFile o) path (name :: args) with
        | .error _ => .proceed Status.cannotStart
        | .ok (program, argv) =>
          outcomeOf (sh.programs program ⟨argv, s.cwd.path?, files, s.input⟩).ending
  unopened : ∀ args target d, s.files.openTarget s.cwd target = .error d →
    sh.execute ⟨name, args, target⟩ s
      = (.proceed Status.failure, (s.takenUp ⟨name, args, target⟩).report d)

/-- Commands of the name are reported as not found, whatever their target, which stays as it is. -/
structure IsMissing (sh : Shell) (s : Session) (name : Text) : Prop where
  outcome : ∀ args target, (sh.execute ⟨name, args, target⟩ s).1 = .proceed 127
  report : ∀ args target, ∃ d : Diagnostic, d.text = name ++ ": command not found".toList
    ∧ (sh.execute ⟨name, args, target⟩ s).2 = (s.takenUp ⟨name, args, target⟩).report d
  /-- A stream for diagnostics that takes all gains exactly the report. -/
  diagnostics : s.err.TakesAll → ∀ args target, s.ErrGrows (sh.execute ⟨name, args, target⟩ s).2 []
    (Line.ofText (name ++ ": command not found".toList))
  files : ∀ args target, (sh.execute ⟨name, args, target⟩ s).2.files = s.files

theorem starts_of_enters {c : Command} {events : List Event} (h : sh.Enters s c events) :
    (sh.execute c s).2.starts = s.starts ++ events.filterMap Session.startOf := by
  rw [Session.starts, h, List.filterMap_append]
  rfl

theorem starts_of_builtin {c : Command} {b : Builtin} (h : sh.builtins.get? c.name = some b) :
    (sh.execute c s).2.starts = s.starts := by
  cases hopen : s.files.openTarget s.cwd c.target with
  | error d =>
      rw [starts_of_enters (enters_of_unopened (knows_of_builtin h) hopen)]
      exact List.append_nil _
  | ok output =>
      obtain ⟨o, files⟩ := output
      rw [starts_of_enters (enters_of_invokes ⟨h, hopen⟩)]
      cases ((s.directed c files).perform o (sh.action s c b files)).1 with
      | ok outcome => exact List.append_nil _
      | error d => exact List.append_nil _

theorem starts_of_unknown {c : Command} (hbuiltin : sh.builtins.get? c.name = none)
    (hprogram : sh.env.locate s.files s.cwd c.name = none) :
    (sh.execute c s).2.starts = s.starts := by
  rw [starts_of_enters (enters_of_unknown hbuiltin hprogram)]
  exact List.append_nil _

theorem starts_of_launches {c : Command} {path : Text} {o : Output} {files : FileTree}
    (h : sh.Launches s c path o files) :
    (sh.execute c s).2.starts = s.starts ++ [(path, c.name :: c.args)] := by
  have hflush : s.flushEvents.filterMap Session.startOf = [] := by
    unfold Session.flushEvents
    split <;> rfl
  rw [starts_of_enters (enters_of_launches h), List.filterMap_append, hflush]
  cases sh.attempt s c path o files with
  | ok e =>
      simp only [endEvents]
      cases e.ending <;> rfl
  | error fault => rfl

theorem outcome_of_launches {c : Command} {path : Text} {o : Output} {files : FileTree}
    (h : sh.Launches s c path o files) :
    (sh.execute c s).1 = match sh.attempt s c path o files with
      | .error _ => .proceed Status.cannotStart
      | .ok e => outcomeOf e.ending := by
  cases hstart : sh.attempt s c path o files with
  | error fault => rw [execute_unstarted h hstart]
  | ok e => rw [execute_ended h hstart]

/-! ## Executions by the look-ups that decide -/

theorem runsBuiltin_of_get? {name : Text} {b : Builtin} (h : sh.builtins.get? name = some b) :
    sh.RunsBuiltin s name b :=
  fun _ _ => execute_builtin h

theorem startsProgram_iff {name path : Text} : sh.StartsProgram s name path
    ↔ sh.builtins.get? name = none ∧ sh.env.locate s.files s.cwd name = some path := by
  constructor
  · intro h
    have hstarts := h.starts [] none .inherit s.files rfl
    have hne : s.starts ++ [(path, [name])] ≠ s.starts := by simp
    cases hbuiltin : sh.builtins.get? name with
    | some b => exact absurd (hstarts.symm.trans (starts_of_builtin hbuiltin)) hne
    | none =>
        cases hprogram : sh.env.locate s.files s.cwd name with
        | none => exact absurd (hstarts.symm.trans (starts_of_unknown hbuiltin hprogram)) hne
        | some path' =>
            have hlaunches : sh.Launches s ⟨name, [], none⟩ path' .inherit s.files :=
              ⟨hbuiltin, hprogram, rfl⟩
            have hsame := hstarts.symm.trans (starts_of_launches hlaunches)
            simp only [List.append_cancel_left_eq, List.cons.injEq, Prod.mk.injEq] at hsame
            exact ⟨rfl, by rw [hsame.1.1]⟩
  · rintro ⟨hbuiltin, hprogram⟩
    refine ⟨fun args target o files hopen => ?_, fun args target o files hopen => ?_,
      fun args target d hopen => ?_⟩
    · exact starts_of_launches (c := ⟨name, args, target⟩) ⟨hbuiltin, hprogram, hopen⟩
    · rw [outcome_of_launches (c := ⟨name, args, target⟩) ⟨hbuiltin, hprogram, hopen⟩, attempt]
      cases files.load s.cwd (heldFile o) path (name :: args) <;> rfl
    · exact execute_unopened (c := ⟨name, args, target⟩) (knows_of_program hprogram) hopen

theorem isMissing_iff {name : Text} : sh.IsMissing s name
    ↔ sh.builtins.get? name = none ∧ sh.env.locate s.files s.cwd name = none := by
  constructor
  · intro h
    have houtcome := h.outcome [] none
    obtain ⟨d, -, hreport⟩ := h.report [] none
    have henters : sh.Enters s ⟨name, [], none⟩ [.reported d] := by
      rw [Enters, hreport]
      exact journal_takenUp_report s _ d
    have hstarts : (sh.execute ⟨name, [], none⟩ s).2.starts = s.starts :=
      (starts_of_enters henters).trans (List.append_nil _)
    cases hbuiltin : sh.builtins.get? name with
    | some b =>
        -- a builtin that reports has failed, and its status is another one
        have hinvokes : sh.Invokes s ⟨name, [], none⟩ b .inherit s.files := ⟨hbuiltin, rfl⟩
        have hevents := List.append_cancel_left (henters.symm.trans (enters_of_invokes hinvokes))
        rw [execute_invokes hinvokes] at houtcome
        cases hact : (s.directed ⟨name, [], none⟩ s.files).perform .inherit
            (sh.action s ⟨name, [], none⟩ b s.files) with
        | mk result s' =>
            rw [hact] at houtcome hevents
            cases result with
            | error d => cases houtcome
            | ok outcome => cases hevents
    | none =>
        cases hprogram : sh.env.locate s.files s.cwd name with
        | none => exact ⟨rfl, rfl⟩
        | some path =>
            have hlaunches : sh.Launches s ⟨name, [], none⟩ path .inherit s.files :=
              ⟨hbuiltin, hprogram, rfl⟩
            have hsame := hstarts.symm.trans (starts_of_launches hlaunches)
            simp at hsame
  · rintro ⟨hbuiltin, hprogram⟩
    have hrun : ∀ args target, sh.execute ⟨name, args, target⟩ s
        = (.proceed Status.notFound, (s.takenUp ⟨name, args, target⟩).report (.notFound name)) :=
      fun _ _ => execute_unknown hbuiltin hprogram
    have htext : (Diagnostic.notFound name).text = name ++ ": command not found".toList := by
      simp only [Diagnostic.text, Diagnostic.about, List.append_assoc]
      rfl
    refine ⟨fun args target => ?_, fun args target => ⟨.notFound name, htext, ?_⟩,
      fun htakes args target => ?_, fun args target => ?_⟩
    · rw [hrun]
      rfl
    · rw [hrun]
    · rw [hrun, ← htext]
      exact (Session.errGrows_report (s := s.takenUp _) htakes _).after rfl
    · rw [hrun]
      exact Session.files_eq ((s.takenUp _).store_report (.notFound name))

/-! ## What a name means -/

/-- A meaning is found as the shell finds what to execute. -/
theorem meaning_eq (sh : Shell) (s : Session) (name : Text) :
    Builtin.meaning (sh.context s) name = match sh.builtins.get? name with
      | some _ => .builtin
      | none => match sh.env.locate s.files s.cwd name with
        | some path => .program path
        | none => .nothing := by
  have hcontains : (sh.context s).isBuiltin name = (sh.builtins.get? name).isSome := rfl
  rw [Builtin.meaning, hcontains]
  cases sh.builtins.get? name <;> rfl

theorem meaning_eq_builtin_iff {name : Text} :
    Builtin.meaning (sh.context s) name = .builtin ↔ ∃ b, sh.builtins.get? name = some b := by
  rw [meaning_eq]
  cases sh.builtins.get? name with
  | some b => simp
  | none => cases sh.env.locate s.files s.cwd name <;> simp

theorem meaning_eq_program_iff {name path : Text} :
    Builtin.meaning (sh.context s) name = .program path
      ↔ sh.builtins.get? name = none ∧ sh.env.locate s.files s.cwd name = some path := by
  rw [meaning_eq]
  cases sh.builtins.get? name with
  | some b => simp
  | none => cases sh.env.locate s.files s.cwd name <;> simp

theorem meaning_eq_nothing_iff {name : Text} :
    Builtin.meaning (sh.context s) name = .nothing
      ↔ sh.builtins.get? name = none ∧ sh.env.locate s.files s.cwd name = none := by
  rw [meaning_eq]
  cases sh.builtins.get? name with
  | some b => simp
  | none => cases sh.env.locate s.files s.cwd name <;> simp

/-- The line that `type` prints for a name. -/
def typeLine (sh : Shell) (s : Session) (name : Text) : Text :=
  (Builtin.meaning (sh.context s) name).line name

theorem proper_meaning (sh : Shell) (s : Session) (name : Text) :
    (Builtin.meaning (sh.context s) name).Proper := by
  cases hmeaning : Builtin.meaning (sh.context s) name with
  | builtin => trivial
  | program path => exact FileTree.slash_mem_of_locate (meaning_eq_program_iff.mp hmeaning).2
  | nothing => trivial

theorem typeLine_eq_iff {name : Text} {m : Builtin.Meaning} (h : m.Proper) :
    sh.typeLine s name = m.line name ↔ Builtin.meaning (sh.context s) name = m :=
  Builtin.line_inj (proper_meaning sh s name) h

theorem action_type {names : List Text} (hnames : names ≠ []) :
    sh.action s ⟨"type".toList, names, none⟩ Builtin.type s.files
      = { lines := names.map (sh.typeLine s)
          result := .ok (.proceed
            (if ∃ name ∈ names, Builtin.meaning (sh.context s) name = .nothing then 1
              else 0)) } := by
  simp only [action, Builtin.type, if_neg hnames, List.any_eq_true, decide_eq_true_eq]
  rfl

theorem execute_type {names : List Text}
    (htype : sh.builtins.get? "type".toList = some Builtin.type) (hout : s.out.TakesAll)
    (hnames : names ≠ []) :
    (sh.execute ⟨"type".toList, names, none⟩ s).1
        = .proceed (if ∃ name ∈ names, Builtin.meaning (sh.context s) name = .nothing then 1 else 0)
      ∧ (sh.execute ⟨"type".toList, names, none⟩ s).2.printed
        = s.printed ++ names.flatMap fun name => Line.ofText (sh.typeLine s name) := by
  obtain ⟨-, hlines⟩ := Session.printed_emitLines (s := s.takenUp ⟨"type".toList, names, none⟩) hout
    (names.map (sh.typeLine s))
  rw [List.flatMap_map] at hlines
  rw [execute_invokes ⟨htype, rfl⟩, action_type hnames,
    Session.perform_of_takesAll (s := s.directed ⟨"type".toList, names, none⟩ s.files) hout]
  exact ⟨rfl, (Session.printed_of_outSide (Session.outSide_conclude _ _)).trans hlines⟩

/-! ## Lines and executions -/

/-- The line tells what executing a command of the name does. -/
structure LineTells (sh : Shell) (s : Session) (bs : List Builtin) (name line : Text) : Prop where
  builtin : line = name ++ " is a shell builtin".toList
    ↔ ∃ b, Registry.last? bs name = some b ∧ sh.RunsBuiltin s name b
  program : ∀ path, line = name ++ " is ".toList ++ path ∧ '/' ∈ path
    ↔ sh.StartsProgram s name path
  missing : line = name ++ " not found".toList ↔ sh.IsMissing s name

theorem lineTells_typeLine {bs : List Builtin} (hbs : sh.builtins = .ofList bs) (name : Text) :
    sh.LineTells s bs name (sh.typeLine s name) where
  builtin := by
    have hlast : sh.builtins.get? name = Registry.last? bs name := by
      rw [hbs, Registry.get?_ofList]
    refine (typeLine_eq_iff (m := .builtin) trivial).trans ?_
    rw [meaning_eq_builtin_iff, hlast]
    constructor
    · rintro ⟨b, hb⟩
      exact ⟨b, hb, runsBuiltin_of_get? (hlast.trans hb)⟩
    · rintro ⟨b, hb, -⟩
      exact ⟨b, hb⟩
  program path := by
    rw [startsProgram_iff, ← meaning_eq_program_iff]
    constructor
    · rintro ⟨hline, hslash⟩
      exact (typeLine_eq_iff (m := .program path) hslash).mp hline
    · intro hmeaning
      have hslash : (Builtin.Meaning.program path).Proper := hmeaning ▸ proper_meaning sh s name
      exact ⟨(typeLine_eq_iff hslash).mpr hmeaning, hslash⟩
  missing := by
    refine (typeLine_eq_iff (m := .nothing) trivial).trans ?_
    rw [meaning_eq_nothing_iff, isMissing_iff]

/-- `type` prints a line for each name, one that tells what executing the name does, and its status
is one if some line says that the name is not found. -/
theorem type_tells_dispatch {bs : List Builtin} {names : List Text} (hbs : sh.builtins = .ofList bs)
    (htype : Registry.last? bs "type".toList = some Builtin.type) (hout : s.out.TakesAll)
    (hnames : names ≠ []) :
    (sh.execute ⟨"type".toList, names, none⟩ s).2.printed
        = s.printed ++ names.flatMap (fun name => Line.ofText (sh.typeLine s name))
      ∧ (sh.execute ⟨"type".toList, names, none⟩ s).1 = .proceed
        (if ∃ name ∈ names, sh.typeLine s name = name ++ " not found".toList then 1 else 0)
      ∧ ∀ name, sh.LineTells s bs name (sh.typeLine s name) := by
  have hget : sh.builtins.get? "type".toList = some Builtin.type := by
    rw [hbs, Registry.get?_ofList, htype]
  obtain ⟨houtcome, hprinted⟩ := execute_type hget hout hnames
  have hmissing : ∀ name, Builtin.meaning (sh.context s) name = .nothing
      ↔ sh.typeLine s name = name ++ " not found".toList :=
    fun name => (typeLine_eq_iff (m := .nothing) trivial).symm
  simp only [hmissing] at houtcome
  exact ⟨hprinted, houtcome, lineTells_typeLine hbs⟩

/-- A name that was registered twice, and one that stands for nothing. -/
theorem type_tells_dispatch_registeredTwice :
    ({ builtins := .ofList [Builtin.echo, Builtin.type, Builtin.probe "echo".toList] }
        : Shell).builtins
        = .ofList [Builtin.echo, Builtin.type, Builtin.probe "echo".toList]
      ∧ Registry.last? [Builtin.echo, Builtin.type, Builtin.probe "echo".toList] "type".toList
        = some Builtin.type
      ∧ ({} : Session).out.TakesAll ∧ ["echo".toList, "ls".toList] ≠ []
      ∧ (execute { builtins := .ofList [Builtin.echo, Builtin.type, Builtin.probe "echo".toList] }
          ⟨"type".toList, ["echo".toList, "ls".toList], none⟩ {}).2.printed
        = Line.ofText "echo is a shell builtin".toList ++ Line.ofText "ls not found".toList
      ∧ (execute { builtins := .ofList [Builtin.echo, Builtin.type, Builtin.probe "echo".toList] }
          ⟨"type".toList, ["echo".toList, "ls".toList], none⟩ {}).1 = .proceed 1
      ∧ RunsBuiltin
          { builtins := .ofList [Builtin.echo, Builtin.type, Builtin.probe "echo".toList] } {}
          "echo".toList (Builtin.probe "echo".toList) := by
  have hbs : ({ builtins := .ofList [Builtin.echo, Builtin.type, Builtin.probe "echo".toList] }
      : Shell).builtins = .ofList [Builtin.echo, Builtin.type, Builtin.probe "echo".toList] := rfl
  have htype : Registry.last? [Builtin.echo, Builtin.type, Builtin.probe "echo".toList]
      "type".toList = some Builtin.type := rfl
  have hout : ({} : Session).out.TakesAll := by
    rintro f ⟨⟩
  have hnames : ["echo".toList, "ls".toList] ≠ [] := List.cons_ne_nil _ _
  obtain ⟨hprinted, houtcome, htells⟩ := type_tells_dispatch hbs htype hout hnames
  obtain ⟨b, hlast, hruns⟩ := (htells "echo".toList).builtin.mp rfl
  cases hlast
  exact ⟨hbs, htype, hout, hnames, hprinted, houtcome, hruns⟩

end Shell
end LineShell
