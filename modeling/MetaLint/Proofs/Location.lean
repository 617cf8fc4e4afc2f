import MetaLint.Finder
import MetaLint.Proofs.Directory

/-!
# Directories that stay in place

The path of a location leads to it when the names on the way are ones that files can have. Files are
written where there is no directory, so a location of a directory stays one, and its path cannot be
read after any number of writes.
-/

set_option autoImplicit false

namespace MetaLint.Disk

structure HasDir (d : Disk) (l : Location) : Prop where
  named : ∀ n ∈ l, Path.IsName n
  short : ∀ n ∈ l, n.bytes.length ≤ nameBound
  found : ∃ es, d.root.get? l = some (.dir es)

theorem isName_of_mem_steps {raw n : OsText} (h : Step.name n ∈ steps raw) : Path.IsName n := by
  obtain ⟨piece, hp, he⟩ := List.mem_map.mp h
  rw [Step.ofPiece] at he
  split at he
  next => contradiction
  next hhere =>
    split at he
    next => contradiction
    next hup =>
      obtain rfl : piece = n := by injection he
      simp only [Bool.or_eq_true, decide_eq_true_eq, not_or] at hhere
      exact ⟨hhere.1, hhere.2, hup, Path.not_mem_of_mem_pieces hp⟩

section Leads
variable {root : Node} {fuel : Nat} {l : Location} {todo : List Step}

theorem Leads.named {place : Place} (h : Leads root fuel l todo place) {x : Location}
    (hx : place = .node x) (hl : ∀ n ∈ l, Path.IsName n)
    (ht : ∀ n, Step.name n ∈ todo → Path.IsName n) : ∀ n ∈ x, Path.IsName n := by
  induction h with
  | done fuel l =>
    obtain rfl : l = x := by injection hx
    exact hl
  | here hdir _ ih => exact ih hx hl fun n hn => ht n (List.mem_cons_of_mem _ hn)
  | up hdir _ ih =>
    exact ih hx (fun n hn => hl n (List.dropLast_subset _ hn))
      fun n hn => ht n (List.mem_cons_of_mem _ hn)
  | free => contradiction
  | enter hdir hn hsome hlink _ ih =>
    apply ih hx
    · intro m hm
      rcases List.mem_append.mp hm with hm | hm
      · exact hl m hm
      · rw [List.mem_singleton.mp hm]
        exact ht _ List.mem_cons_self
    · exact fun m hm => ht m (List.mem_cons_of_mem _ hm)
  | link hdir hn hsome _ ih =>
    apply ih hx
    · intro m hm
      split at hm
      · contradiction
      · exact hl m hm
    · intro m hm
      rcases List.mem_append.mp hm with hm | hm
      · exact isName_of_mem_steps hm
      · exact ht m (List.mem_cons_of_mem _ hm)

theorem Leads.in_dir {place : Place} (h : Leads root fuel l todo place) {x : Location}
    (hx : place = .free x) : ∃ dir es n,
      x = dir ++ [n] ∧ root.get? dir = some (.dir es) ∧ es.lookup n = none := by
  induction h with
  | done => contradiction
  | here _ _ ih => exact ih hx
  | up _ _ ih => exact ih hx
  | @free fuel l es n hdir hn hnone =>
    obtain rfl : l ++ [n] = x := by injection hx
    exact ⟨l, es, n, rfl, hdir, hnone⟩
  | enter _ _ _ _ _ ih => exact ih hx
  | link _ _ _ _ ih => exact ih hx

theorem Leads.get?_free {place : Place} (h : Leads root fuel l todo place) {x : Location}
    (hx : place = .free x) : root.get? x = none := by
  obtain ⟨dir, es, n, rfl, hdir, hnone⟩ := h.in_dir hx
  simp [Node.get?_append, hdir, Node.get?_cons, Node.child?, Node.entries, hnone]

theorem entry_of_get? {es : List (OsText × Node)} {n : OsText} {rest : Location}
    (h : root.get? (l ++ n :: rest) = some (.dir es)) : ∃ own child,
      root.get? l = some (.dir own) ∧ own.lookup n = some child ∧
        ∀ target, child ≠ .link target := by
  rw [Node.get?_append] at h
  obtain ⟨node, hnode, hrest⟩ := Option.bind_eq_some_iff.mp h
  obtain ⟨own, rfl⟩ := Node.isDir_of_get? hrest
  rw [Node.get?_cons] at hrest
  obtain ⟨child, hchild, hdir⟩ := Option.bind_eq_some_iff.mp hrest
  obtain ⟨below, rfl⟩ := Node.isDir_of_get? hdir
  exact ⟨own, .dir below, hnode, hchild, fun _ => Node.noConfusion⟩

theorem leads_names {es : List (OsText × Node)} {rest : Location}
    (h : root.get? (l ++ rest) = some (.dir es)) (hs : ∀ n ∈ rest, n.bytes.length ≤ nameBound) :
    Leads root fuel l (rest.map .name) (.node (l ++ rest)) := by
  induction rest generalizing l with
  | nil =>
    rw [List.append_nil]
    exact .done fuel l
  | cons n rest ih =>
    obtain ⟨own, child, hown, hchild, hlink⟩ := entry_of_get? h
    obtain ⟨hn, hrest⟩ := List.forall_mem_cons.mp hs
    have hsplit : l ++ n :: rest = l ++ [n] ++ rest := by simp
    rw [hsplit] at h ⊢
    exact .enter hown hn hchild hlink (ih h hrest)

end Leads

theorem startsAtRoot_pathOf (l : Location) : Path.startsAtRoot (pathOf l).raw = true := rfl

theorem raw_pathOf {l : Location} (hne : l ≠ []) :
    (pathOf l).raw = Path.separated (("" : OsText) :: l) := by
  obtain ⟨first, rest, rfl⟩ := List.exists_cons_of_ne_nil hne
  rw [Path.separated_cons_cons]
  rfl

theorem steps_pathOf {l : Location} (h : ∀ n ∈ l, Path.IsName n) (hne : l ≠ []) :
    steps (pathOf l).raw = .here :: l.map .name := by
  have hsingle : ∀ n ∈ ("" : OsText) :: l, Path.separator ∉ n.bytes :=
    List.forall_mem_cons.mpr ⟨by decide, fun n hn => (h n hn).single⟩
  have hmap : l.map Step.ofPiece = l.map Step.name := by
    apply List.map_congr_left
    intro n hn
    have hname := h n hn
    simp [Step.ofPiece, hname.filled, hname.notHere, hname.notUp]
  rw [steps, raw_pathOf hne, Path.pieces_separated (by simp) hsingle, List.map_cons, hmap]
  rfl

theorem placeOf_pathOf {d : Disk} {l : Location} {es : List (OsText × Node)}
    (h : ∀ n ∈ l, Path.IsName n) (hroot : d.root = .dir es) :
    d.placeOf (pathOf l) true (steps (pathOf l).raw) =
      follow d.root true linkBound [] (l.map .name) := by
  rw [placeOf, startsAtRoot_pathOf, if_pos rfl]
  by_cases hl : l = []
  · subst hl
    have hsteps : steps (pathOf []).raw = [.here, .here] := by decide
    simp [hsteps, hroot, follow]
  · simp [steps_pathOf h hl, hroot, follow]

theorem HasDir.leadsToDir {d : Disk} {l : Location} (h : d.HasDir l) : d.LeadsToDir (pathOf l) := by
  obtain ⟨es, hes⟩ := h.found
  obtain ⟨own, hroot⟩ := Node.isDir_of_get? hes
  refine ⟨l, es, ?_, hes⟩
  rw [placeOf_pathOf h.named hroot]
  exact follow_of_leads (leads_names (l := []) hes h.short)

theorem named_of_trace {d : Disk} {p : Path} {l : Location} (hcwd : ∀ n ∈ d.cwd, Path.IsName n)
    (h : d.trace p = .ok l) : ∀ n ∈ l, Path.IsName n := by
  apply (leads_of_follow (placeOf_of_trace h)).named rfl
  · intro n hn
    split at hn
    · contradiction
    · exact hcwd n hn
  · exact fun n hn => isName_of_mem_steps hn

theorem leads_of_writePlace {d : Disk} {p : Path} {place : Place}
    (h : d.writePlace p = .ok place) :
    Leads d.root linkBound (if Path.startsAtRoot p.raw then [] else d.cwd) (steps p.raw) place := by
  rw [writePlace] at h
  split at h
  next =>
    -- A separator at the end asks for a directory, which is never written.
    simp only [bind, Except.bind] at h
    repeat' split at h
    all_goals contradiction
  next => exact leads_of_follow (placeOf_of_place h)

/-- A file is written at a place where there is no directory. -/
theorem write_eq {d after : Disk} {p : Path} {content : Text.Bytes}
    (h : d.write p content = .ok after) : ∃ x,
      after = { d with root := .put (.file content) x d.root } ∧
        ∀ es, d.root.get? x ≠ some (.dir es) := by
  rw [write] at h
  cases hp : d.writePlace p with
  | error fault => simp [hp, bind, Except.bind] at h
  | ok place =>
    simp only [hp, bind, Except.bind] at h
    cases place with
    | free x =>
      have hnone := (leads_of_writePlace hp).get?_free rfl
      exact ⟨x, (Except.ok.inj h).symm, by simp [hnone]⟩
    | node x =>
      cases hx : d.root.get? x with
      | none => simp [hx] at h
      | some node =>
        cases node with
        | file old =>
          simp only [hx] at h
          exact ⟨x, (Except.ok.inj h).symm, by simp [hx]⟩
        | locked => simp [hx] at h
        | link target => simp [hx] at h
        | dir es => simp [hx] at h

theorem HasDir.write {d after : Disk} {l : Location} {p : Path} {content : Text.Bytes}
    (h : d.HasDir l) (hw : d.write p content = .ok after) : after.HasDir l := by
  obtain ⟨x, rfl, hx⟩ := write_eq hw
  obtain ⟨es, hes⟩ := h.found
  refine ⟨h.named, h.short, Node.get?_put hes ?_⟩
  rintro ⟨more, rfl⟩
  rw [Node.get?_append] at hes
  obtain ⟨node, hnode, hmore⟩ := Option.bind_eq_some_iff.mp hes
  obtain ⟨own, rfl⟩ := Node.isDir_of_get? hmore
  exact hx own hnode

end MetaLint.Disk
