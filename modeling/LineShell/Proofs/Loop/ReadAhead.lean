/-!
# Reading ahead of others

Two readers share a stream. One reads ahead: it draws a part of the stream into a buffer of its own
and hands out a line from there, and what it does not hand out stays in the buffer. The other takes
its part off the stream itself. A `Portion` says how much of each there is in one round, and
`deliveries` who gets what in round after round.

The elements of the stream play no part in this (`line_map`, `given_map`, `after_map`). So what
holds of a stream of bytes can be read off the stream of their positions: nothing is lost and
nothing is given out twice (`perm_deliveries`), and each reader gets its part in the order of the
stream (`lines_sublist`, `givens_sublist`). A reader that is alone gets the whole
(`lines_of_ungiven`).
-/

namespace LineShell

/-- What moves in one round: how much is drawn into the buffer, how much of it is handed out as a
line, and how much the other reader takes afterwards. -/
structure Portion where
  drawn : Nat
  length : Nat
  taken : Nat

/-- A stream that is read ahead. -/
structure ReadAhead (α : Type) where
  buffer : List α
  rest : List α

namespace ReadAhead

variable {α β : Type}

/-! ## One round -/

/-- The buffer once it was filled for a round. -/
def filled (f : ReadAhead α) (n : Portion) : List α := f.buffer ++ f.rest.take n.drawn

def line (f : ReadAhead α) (n : Portion) : List α := (f.filled n).take n.length

/-- What the other reader gets in a round. -/
def given (f : ReadAhead α) (n : Portion) : List α := (f.rest.drop n.drawn).take n.taken

def after (f : ReadAhead α) (n : Portion) : ReadAhead α :=
  ⟨(f.filled n).drop n.length, (f.rest.drop n.drawn).drop n.taken⟩

/-- All that is not given out yet. -/
def left (f : ReadAhead α) : List α := f.buffer ++ f.rest

theorem line_append (f : ReadAhead α) (n : Portion) :
    f.line n ++ (f.after n).buffer = f.filled n :=
  List.take_append_drop _ _

theorem given_append (f : ReadAhead α) (n : Portion) :
    f.given n ++ (f.after n).rest = f.rest.drop n.drawn :=
  List.take_append_drop _ _

theorem filled_append (f : ReadAhead α) (n : Portion) :
    f.filled n ++ f.rest.drop n.drawn = f.left := by
  rw [filled, List.append_assoc, List.take_append_drop, left]

theorem perm_round (f : ReadAhead α) (n : Portion) :
    ((f.line n ++ f.given n) ++ (f.after n).left).Perm f.left := by
  -- only the buffer and what is given change places
  rw [← filled_append f n, ← line_append, ← given_append, left, List.append_assoc,
    List.append_assoc]
  refine List.Perm.append_left _ ?_
  rw [← List.append_assoc, ← List.append_assoc]
  exact List.perm_append_comm.append_right _

/-! ## Many rounds -/

/-- What each round gives to the reader that reads ahead, and what to the other. -/
def deliveries : List Portion → ReadAhead α → List (List α × List α)
  | [], _ => []
  | n :: ns, f => (f.line n, f.given n) :: deliveries ns (f.after n)

/-- The stream after some rounds. -/
def afterAll (f : ReadAhead α) (ns : List Portion) : ReadAhead α := ns.foldl after f

theorem perm_deliveries (ns : List Portion) (f : ReadAhead α) :
    (((deliveries ns f).flatMap fun d => d.1 ++ d.2) ++ (f.afterAll ns).left).Perm f.left := by
  induction ns generalizing f with
  | nil => exact List.Perm.refl _
  | cons n ns ih =>
      rw [deliveries, List.flatMap_cons, List.append_assoc]
      exact ((ih (f.after n)).append_left _).trans (f.perm_round n)

theorem lines_sublist (ns : List Portion) (f : ReadAhead α) :
    ((deliveries ns f).flatMap Prod.fst).Sublist f.left := by
  induction ns generalizing f with
  | nil => exact List.nil_sublist _
  | cons n ns ih =>
      have hrest : (f.after n).rest.Sublist (f.rest.drop n.drawn) := List.drop_sublist _ _
      have hstep : (f.line n ++ (f.after n).left).Sublist f.left := by
        rw [left, ← List.append_assoc, line_append, ← filled_append f n]
        exact hrest.append_left _
      exact ((ih (f.after n)).append_left _).trans hstep

theorem givens_sublist (ns : List Portion) (f : ReadAhead α) :
    ((deliveries ns f).flatMap Prod.snd).Sublist f.rest := by
  induction ns generalizing f with
  | nil => exact List.nil_sublist _
  | cons n ns ih =>
      have hstep : (f.given n ++ (f.after n).rest).Sublist f.rest := by
        rw [given_append]
        exact List.drop_sublist _ _
      exact ((ih (f.after n)).append_left _).trans hstep

theorem lines_of_ungiven {ns : List Portion} {f : ReadAhead α}
    (h : ∀ d ∈ deliveries ns f, d.2 = []) :
    (deliveries ns f).flatMap Prod.fst ++ (f.afterAll ns).left = f.left := by
  induction ns generalizing f with
  | nil => rfl
  | cons n ns ih =>
      have hgiven : f.given n = [] := h (f.line n, f.given n) (List.mem_cons_self ..)
      have hrest : (f.after n).rest = f.rest.drop n.drawn := by
        rw [← given_append f n, hgiven, List.nil_append]
      have hlines := ih (f := f.after n) fun d hd => h d (List.mem_cons_of_mem _ hd)
      rw [deliveries, List.flatMap_cons, List.append_assoc]
      refine (congrArg (f.line n ++ ·) hlines).trans ?_
      rw [left, ← List.append_assoc, line_append, hrest, filled_append]

/-! ## Elements -/

def map (g : α → β) (f : ReadAhead α) : ReadAhead β := ⟨f.buffer.map g, f.rest.map g⟩

theorem left_map (g : α → β) (f : ReadAhead α) : (f.map g).left = f.left.map g :=
  List.map_append.symm

theorem filled_map (g : α → β) (f : ReadAhead α) (n : Portion) :
    (f.map g).filled n = (f.filled n).map g := by
  rw [filled, filled, List.map_append, List.map_take]
  rfl

theorem line_map (g : α → β) (f : ReadAhead α) (n : Portion) :
    (f.map g).line n = (f.line n).map g := by
  rw [line, filled_map, line, List.map_take]

theorem given_map (g : α → β) (f : ReadAhead α) (n : Portion) :
    (f.map g).given n = (f.given n).map g := by
  rw [given, given, List.map_take, List.map_drop]
  rfl

theorem after_map (g : α → β) (f : ReadAhead α) (n : Portion) :
    (f.map g).after n = (f.after n).map g := by
  have hfilled := congrArg (List.drop n.length) (filled_map g f n)
  simp only [after, hfilled]
  simp only [map, List.map_drop]

theorem afterAll_map (g : α → β) (ns : List Portion) (f : ReadAhead α) :
    (f.map g).afterAll ns = (f.afterAll ns).map g := by
  induction ns generalizing f with
  | nil => rfl
  | cons n ns ih =>
      refine Eq.trans ?_ (ih (f.after n))
      rw [← after_map]
      rfl

end ReadAhead
end LineShell
