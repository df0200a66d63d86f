import LineShell.Proofs.Builtin.Results
import LineShell.Proofs.Shell.Course

/-!
# What is read of the environment

Of all variables only `PATH` and `HOME` are read, and of these only the `value`, which is empty for
a missing variable. A command reads `PATH` if it `Searches`, which a program and a `type` do, and
`HOME` if it `NamesHome`, which a `cd` with a tilde does. So in two environments that *serve* a
command alike it has the same outcome and leaves the same session (`execute_of_serves`).

Over the lines of a session up to its end (`Shell.conduct`) it is the commands that are executed
that count: nothing else of the two environments matters (`conduct_of_serves`).
-/

namespace LineShell

/-! ## Environments -/

namespace Environment

/-- The value of a variable. A missing variable has the empty value. -/
def value (env : Environment) (key : Text) : Text := (env.get? key).getD []

variable {env env' : Environment}

theorem home?_eq (env : Environment) :
    env.home? = if env.value "HOME".toList = [] then none else some (env.value "HOME".toList) := by
  rw [home?, value]
  cases env.get? "HOME".toList with
  | none => rfl
  | some home =>
      by_cases hempty : home = []
      · subst hempty
        rfl
      · rw [Option.getD_some, if_neg hempty, Option.filter_some, decide_eq_true hempty]
        rfl

theorem expandTilde_of_value (h : env.value "HOME".toList = env'.value "HOME".toList)
    (path : Text) : env.expandTilde path = env'.expandTilde path := by
  have hhome : env.home? = env'.home? := by rw [home?_eq, home?_eq, h]
  rw [expandTilde, expandTilde, hhome]

/-- The path is a tilde alone or begins with a tilde and a slash. -/
def HasTilde (path : Text) : Prop := path = "~".toList ∨ "~/".toList <+: path

theorem afterTilde?_of_not_hasTilde {path : Text} (h : ¬ HasTilde path) :
    afterTilde? path = none := by
  unfold afterTilde?
  split
  · exact absurd (Or.inl rfl) h
  · next rest => exact absurd (Or.inr ⟨rest, rfl⟩) h
  · rfl

theorem expandTilde_of_not_hasTilde {path : Text} (h : ¬ HasTilde path) (env : Environment) :
    env.expandTilde path = path := by
  rw [expandTilde, afterTilde?_of_not_hasTilde h]

theorem locate_of_value (h : env.value "PATH".toList = env'.value "PATH".toList) (t : FileTree)
    (cwd : Place) (name : Text) : env.locate t cwd name = env'.locate t cwd name :=
  congrArg (fun searchPath => t.locate cwd searchPath name) h

end Environment

theorem Builtin.meaning_of_value {env env' : Environment}
    (h : env.value "PATH".toList = env'.value "PATH".toList) (files : FileTree) (cwd : Place)
    (isBuiltin : Text → Bool) (name : Text) :
    meaning ⟨env, files, cwd, isBuiltin⟩ name = meaning ⟨env', files, cwd, isBuiltin⟩ name := by
  rw [meaning, meaning]
  simp only [Environment.locate_of_value h]

namespace Shell

variable {sh : Shell} {env env' : Environment} {s : Session} {c : Command}

/-- The shell with another environment. -/
def inEnv (sh : Shell) (env : Environment) : Shell := { sh with env := env }

/-! ## What commands read -/

/-- The command looks for programs: to start one, or to say what there is. -/
def Searches (sh : Shell) (c : Command) : Prop :=
  sh.builtins.get? c.name = none ∨ c.name = "type".toList

/-- The command is a `cd` to a path with a leading tilde. -/
def NamesHome (c : Command) : Prop :=
  c.name = "cd".toList ∧ ∃ arg ∈ c.args.head?, Environment.HasTilde arg

/-- The environments have the same value of every variable that the command reads. -/
structure Serves (sh : Shell) (env env' : Environment) (c : Command) : Prop where
  path : sh.Searches c → env.value "PATH".toList = env'.value "PATH".toList
  home : NamesHome c → env.value "HOME".toList = env'.value "HOME".toList

theorem cd_of_serves (h : sh.Serves env env' c) (hname : c.name = "cd".toList) (files : FileTree)
    (cwd : Place) (isBuiltin : Text → Bool) :
    Builtin.cd.act ⟨env, files, cwd, isBuiltin⟩ c.args
      = Builtin.cd.act ⟨env', files, cwd, isBuiltin⟩ c.args := by
  cases hargs : c.args with
  | nil => rfl
  | cons arg args =>
      have hexpand : env.expandTilde arg = env'.expandTilde arg := by
        by_cases htilde : Environment.HasTilde arg
        · have harg : arg ∈ c.args.head? := by
            rw [hargs]
            rfl
          exact Environment.expandTilde_of_value (h.home ⟨hname, arg, harg, htilde⟩) arg
        · rw [Environment.expandTilde_of_not_hasTilde htilde,
            Environment.expandTilde_of_not_hasTilde htilde]
      simp only [Builtin.cd, hexpand]

theorem type_of_serves (h : sh.Serves env env' c) (hname : c.name = "type".toList)
    (files : FileTree) (cwd : Place) (isBuiltin : Text → Bool) :
    Builtin.type.act ⟨env, files, cwd, isBuiltin⟩ c.args
      = Builtin.type.act ⟨env', files, cwd, isBuiltin⟩ c.args := by
  have hmeaning := Builtin.meaning_of_value (h.path (Or.inr hname)) files cwd isBuiltin
  simp only [Builtin.type, hmeaning]

/-- A builtin that does not read a variable acts alike whatever its value. -/
theorem act_of_serves (hstd : sh.builtins = .standard) (h : sh.Serves env env' c) {b : Builtin}
    (hb : sh.builtins.get? c.name = some b) (o : Output) (s : Session) :
    (sh.inEnv env).act b c.args o s = (sh.inEnv env').act b c.args o s := by
  have hb' : Registry.standard.get? c.name = some b := hstd ▸ hb
  have haction : b.act ((sh.inEnv env).context s) c.args
      = b.act ((sh.inEnv env').context s) c.args := by
    rcases Registry.standard_cases hb' with
      ⟨hname, rfl⟩ | ⟨-, rfl⟩ | ⟨-, rfl⟩ | ⟨hname, rfl⟩ | ⟨-, rfl⟩
    · exact type_of_serves h hname _ _ _
    · rfl
    · rfl
    · exact cd_of_serves h hname _ _ _
    · rfl
  rw [act, act, haction]

/-! ## Commands and lines -/

theorem execute_of_serves (hstd : sh.builtins = .standard) (h : sh.Serves env env' c)
    (s : Session) : (sh.inEnv env).execute c s = (sh.inEnv env').execute c s := by
  cases hb : sh.builtins.get? c.name with
  | some b =>
      have hrun : ∀ env, (sh.inEnv env).execute c s
          = (sh.inEnv env).runBuiltin b c.args c.target (s.takenUp c) :=
        fun _ => execute_builtin hb
      rw [hrun, hrun, runBuiltin, runBuiltin]
      simp only [act_of_serves hstd h hb]
  | none =>
      have hrun : ∀ env, (sh.inEnv env).execute c s
          = (sh.inEnv env).runProgram c.name c.args c.target (s.takenUp c) :=
        fun _ => execute_program hb
      have hlocate : (sh.inEnv env).env.locate (s.takenUp c).files (s.takenUp c).cwd c.name
          = (sh.inEnv env').env.locate (s.takenUp c).files (s.takenUp c).cwd c.name :=
        Environment.locate_of_value (h.path (Or.inl hb)) _ _ _
      rw [hrun, hrun, runProgram, runProgram, hlocate]
      rfl

theorem executeLine_of_serves (hstd : sh.builtins = .standard) {line : Text}
    (h : ∀ c, Command.ofLine line = .ok (some c) → sh.Serves env env' c) (s : Session) :
    (sh.inEnv env).executeLine line s = (sh.inEnv env').executeLine line s := by
  rw [executeLine_eq, executeLine_eq]
  cases hline : Command.ofLine line with
  | error e => rfl
  | ok found =>
      cases found with
      | none => rfl
      | some c =>
          simp only [execute_of_serves hstd (h c hline)]

/-! ## Sessions of lines -/

/-- Executes lines up to the first that ends the shell. The result is the lines that are executed,
with their outcomes, and the session after them. -/
def conduct (sh : Shell) : List Text → Session → List (Text × Outcome) × Session
  | [], s => ([], s)
  | line :: lines, s => match sh.executeLine line s with
    | (.terminate code, s') => ([(line, .terminate code)], s')
    | (.proceed code, s') =>
      ((line, .proceed code) :: (sh.conduct lines s').1, (sh.conduct lines s').2)

/-- The command is the command of a line that is executed. -/
def Executes (sh : Shell) (s : Session) (lines : List Text) (c : Command) : Prop :=
  ∃ x ∈ (sh.conduct lines s).1, Command.ofLine x.1 = .ok (some c)

/-- Shells that execute alike the lines that are executed conduct them alike. -/
theorem conduct_congr {sh sh' : Shell} {lines : List Text} {s : Session}
    (h : ∀ x ∈ (sh.conduct lines s).1, ∀ t, sh.executeLine x.1 t = sh'.executeLine x.1 t) :
    sh.conduct lines s = sh'.conduct lines s := by
  induction lines generalizing s with
  | nil => rfl
  | cons line lines ih =>
      rw [conduct] at h
      cases hrun : sh.executeLine line s with
      | mk outcome s' =>
          rw [hrun] at h
          -- this line is executed in any case, and the lines after it unless it ends the shell
          cases outcome with
          | terminate code =>
              have hline := h _ (List.mem_cons_self ..) s
              rw [conduct, conduct, ← hline, hrun]
          | proceed code =>
              have hline := h _ (List.mem_cons_self ..) s
              have hlines : sh.conduct lines s' = sh'.conduct lines s' := by
                refine ih ?_
                intro x hx
                exact h x (List.mem_cons_of_mem _ hx)
              rw [conduct, conduct, ← hline, hrun]
              simp only [hlines]

theorem conduct_of_serves (hstd : sh.builtins = .standard) {lines : List Text}
    (h : ∀ c, (sh.inEnv env).Executes s lines c → sh.Serves env env' c) :
    (sh.inEnv env).conduct lines s = (sh.inEnv env').conduct lines s := by
  refine conduct_congr ?_
  intro x hx t
  refine executeLine_of_serves hstd ?_ t
  intro c hline
  exact h c ⟨x, hx, hline⟩

/-- What two environments must have in common for the same lines to be executed in both, with the
same outcomes and up to the same session. -/
structure ReadsPathAndHome (sh : Shell) (env env' : Environment) (s : Session)
    (lines : List Text) : Prop where
  both : env.value "PATH".toList = env'.value "PATH".toList →
    env.value "HOME".toList = env'.value "HOME".toList →
    (sh.inEnv env).conduct lines s = (sh.inEnv env').conduct lines s
  pathAlone : env.value "PATH".toList = env'.value "PATH".toList →
    (∀ c, (sh.inEnv env).Executes s lines c → ¬ NamesHome c) →
    (sh.inEnv env).conduct lines s = (sh.inEnv env').conduct lines s
  homeAlone : env.value "HOME".toList = env'.value "HOME".toList →
    (∀ c, (sh.inEnv env).Executes s lines c → ¬ sh.Searches c) →
    (sh.inEnv env).conduct lines s = (sh.inEnv env').conduct lines s

/-- Nothing of an environment matters but the values of `PATH` and `HOME`: the latter only to a `cd`
with a tilde, and the former only to names that are not builtin and to `type`. -/
theorem only_path_and_home_matter (hstd : sh.builtins = .standard) (env env' : Environment)
    (s : Session) (lines : List Text) : sh.ReadsPathAndHome env env' s lines where
  both := by
    intro hpath hhome
    refine conduct_of_serves hstd ?_
    intro c _
    exact ⟨fun _ => hpath, fun _ => hhome⟩
  pathAlone := by
    intro hpath hnone
    refine conduct_of_serves hstd ?_
    intro c hexecuted
    exact ⟨fun _ => hpath, fun hnames => absurd hnames (hnone c hexecuted)⟩
  homeAlone := by
    intro hhome hnone
    refine conduct_of_serves hstd ?_
    intro c hexecuted
    exact ⟨fun hsearches => absurd hsearches (hnone c hexecuted), fun _ => hhome⟩

/-- An empty `HOME` for a missing one, and a `cd` without a tilde in two different homes. -/
theorem only_path_and_home_matter_emptyHome :
    ({} : Shell).builtins = .standard
      ∧ (inEnv {} {}).conduct ["cd ~".toList, "x".toList] {}
        = (inEnv {} ⟨[("HOME".toList, []), ("X".toList, ['1'])]⟩).conduct
          ["cd ~".toList, "x".toList] {}
      ∧ ((inEnv {} {}).conduct ["cd ~".toList, "x".toList] {}).1
        = [("cd ~".toList, .proceed 1), ("x".toList, .proceed 127)]
      ∧ (inEnv {} {}).conduct ["cd /".toList] {}
        = (inEnv {} ⟨[("HOME".toList, ['/', 'h'])]⟩).conduct ["cd /".toList] {} := by
  have hboth : ReadsPathAndHome {} {} ⟨[("HOME".toList, []), ("X".toList, ['1'])]⟩ {}
      ["cd ~".toList, "x".toList] := only_path_and_home_matter rfl _ _ _ _
  have hhomes : ReadsPathAndHome {} {} ⟨[("HOME".toList, ['/', 'h'])]⟩ {} ["cd /".toList] :=
    only_path_and_home_matter rfl _ _ _ _
  refine ⟨rfl, hboth.both rfl rfl, by decide +kernel, hhomes.pathAlone rfl ?_⟩
  rintro c ⟨x, hx, hline⟩ ⟨-, arg, harg, htilde⟩
  have hexecuted : ((inEnv {} {}).conduct ["cd /".toList] {}).1
      = [("cd /".toList, .proceed 0)] := by decide +kernel
  rw [hexecuted, List.mem_singleton] at hx
  subst hx
  have hcd : Command.ofLine "cd /".toList = .ok (some ⟨"cd".toList, ["/".toList], none⟩) := rfl
  cases hcd.symm.trans hline
  cases harg
  exact absurd htilde (by unfold Environment.HasTilde; decide)

end Shell
end LineShell
