import MetaLint.Proofs.Location
import MetaLint.Proofs.Walking

/-!
# What writing a file changes

A file is written at a place in a directory that is free or holds a regular file. That place then
holds the new content, and every other place holds what it held. Every path can be written to if it
could be before, and goes where it went: writing one file is not in the way of writing another.
-/

set_option autoImplicit false

namespace MetaLint

open Text (Bytes)

namespace Node

variable {n : Node} {x l : Location} {name : OsText} {es : List (OsText × Node)} {content : Bytes}

def isOpen : Node → Bool
  | .file _ => true
  | _ => false

def shows (n : Node) (l : Location) : Option Node := (n.get? l).map bare

theorem shows_cons (rest : Location) :
    (Node.dir es).shows (name :: rest) = (es.lookup name).bind (·.shows rest) := by
  rw [shows, get?_cons, Option.map_bind]
  rfl

theorem shows_append (h : n.get? l = some (.dir es)) (name : OsText) :
    n.shows (l ++ [name]) = (es.lookup name).map bare := by
  rw [shows, get?_append, h, Option.bind_some, get?_cons]
  cases hc : es.lookup name <;> simp [child?, entries, hc]

theorem shows_eq_dir : n.shows l = some (.dir []) ↔ ∃ es, n.get? l = some (.dir es) := by
  rw [shows, Option.map_eq_some_iff]
  simp only [bare_eq_dir]
  exact ⟨fun ⟨_, hget, es, he⟩ => ⟨es, by rw [hget, he]⟩, fun ⟨es, he⟩ => ⟨_, he, es, rfl⟩⟩

theorem shows_eq_file : n.shows l = some (.file content) ↔ n.get? l = some (.file content) := by
  rw [shows, Option.map_eq_some_iff]
  simp only [bare_eq_file, exists_eq_right]

inductive Spot : Node → Location → Prop
  | here {es : List (OsText × Node)} {name : OsText}
      (h : ∀ node, es.lookup name = some node → ∃ content, node = .file content) :
      Spot (.dir es) [name]
  | within {es : List (OsText × Node)} {name : OsText} {child : Node} {rest : Location}
      (hc : es.lookup name = some child) (h : Spot child rest) : Spot (.dir es) (name :: rest)

theorem spot_of_free (h : n.get? l = some (.dir es)) (hfree : es.lookup name = none) :
    Spot n (l ++ [name]) := by
  induction l generalizing n with
  | nil =>
    rw [get?_nil] at h
    obtain rfl := Option.some.inj h
    exact .here (by simp [hfree])
  | cons first rest ih =>
    obtain ⟨own, rfl⟩ := isDir_of_get? h
    rw [get?_cons] at h
    obtain ⟨child, hchild, hrest⟩ := Option.bind_eq_some_iff.mp h
    exact .within hchild (ih hrest)

theorem spot_of_file (h : (Node.dir es).get? x = some (.file content)) : Spot (.dir es) x := by
  induction x generalizing es with
  | nil => simp at h
  | cons first rest ih =>
    rw [get?_cons] at h
    obtain ⟨child, hchild, hrest⟩ := Option.bind_eq_some_iff.mp h
    cases child with
    | dir below => exact .within hchild (ih hrest)
    | file old =>
      obtain ⟨rfl, -⟩ := get?_of_not_dir rfl hrest
      refine .here fun node hnode => ⟨old, ?_⟩
      exact Option.some.inj (hnode.symm.trans hchild)
    | locked => exact absurd (get?_of_not_dir rfl hrest).2 (by simp)
    | link target => exact absurd (get?_of_not_dir rfl hrest).2 (by simp)

theorem Spot.free_or_file (h : Spot n x) :
    n.shows x = none ∨ ∃ content, n.shows x = some (.file content) := by
  induction h with
  | @here es name h =>
    rw [shows_cons]
    cases hc : es.lookup name with
    | none => exact .inl rfl
    | some node =>
      obtain ⟨content, rfl⟩ := h node hc
      exact .inr ⟨content, rfl⟩
  | within hc _ ih => rwa [shows_cons, hc, Option.bind_some]

theorem Spot.not_dir (h : Spot n x) : ¬ ∃ es, n.get? x = some (.dir es) := by
  rw [← shows_eq_dir]
  rcases h.free_or_file with hx | ⟨content, hx⟩ <;> simp [hx]

theorem shows_put (h : Spot n x) (content : Bytes) (l : Location) :
    (put (.file content) x n).shows l = if l = x then some (.file content) else n.shows l := by
  induction h generalizing l with
  | @here es name h =>
    cases l with
    | nil => simp [put, shows, bare]
    | cons first l =>
      rw [put, shows_cons]
      by_cases hf : first = name
      · subst hf
        rw [lookup_putEntry_self, Option.bind_some]
        cases l with
        | nil => simp [shows, bare]
        | cons next l =>
          have hnone : ∀ old, (Node.file old).shows (next :: l) = none := by
            intro old
            simp [shows, get?_cons, child?, entries]
          rw [hnone, if_neg (by simp), shows_cons, eq_comm, Option.bind_eq_none_iff]
          intro node hnode
          obtain ⟨old, rfl⟩ := h node hnode
          exact hnone old
      · rw [lookup_putEntry_of_ne hf, if_neg (by simp [hf]), shows_cons]
  | @within es name child rest hc hrest ih =>
    obtain ⟨next, more, rfl⟩ : ∃ next more, rest = next :: more := by
      cases hrest <;> exact ⟨_, _, rfl⟩
    have hput : put (.file content) (name :: next :: more) (.dir es) =
        .dir (putEntry name (put (.file content) (next :: more) child) es) := by
      simp [put, hc]
    rw [hput]
    cases l with
    | nil => simp [shows, bare]
    | cons first l =>
      rw [shows_cons, shows_cons]
      by_cases hf : first = name
      · subst hf
        rw [lookup_putEntry_self, hc, Option.bind_some, Option.bind_some, ih]
        simp
      · rw [lookup_putEntry_of_ne hf, if_neg (by simp [hf])]

section Put
variable (h : Spot n x) {own : List (OsText × Node)}
include h

theorem exists_dir_put (content : Bytes) :
    (∃ own, (put (.file content) x n).get? l = some (.dir own)) ↔
      ∃ es, n.get? l = some (.dir es) := by
  by_cases hl : l = x
  · rw [← shows_eq_dir, shows_put h, if_pos hl, hl]
    exact iff_of_false (by simp) h.not_dir
  · rw [← shows_eq_dir, ← shows_eq_dir, shows_put h, if_neg hl]

theorem get?_put_dir (content : Bytes) (hl : n.get? l = some (.dir es)) :
    ∃ own, (put (.file content) x n).get? l = some (.dir own) :=
  (exists_dir_put h content).mpr ⟨es, hl⟩

variable (hl : n.get? l = some (.dir es))
  (hown : (put (.file content) x n).get? l = some (.dir own))
include hl hown

theorem lookup_put (name : OsText) : (own.lookup name).map bare =
    if l ++ [name] = x then some (.file content) else (es.lookup name).map bare := by
  rw [← shows_append hown, ← shows_append hl, shows_put h]

theorem lookup_put_none (hnone : es.lookup name = none) :
    l ++ [name] = x ∧ own.lookup name = some (.file content) ∨
      l ++ [name] ≠ x ∧ own.lookup name = none := by
  have hentry := lookup_put h hl hown name
  by_cases hx : l ++ [name] = x
  · rw [if_pos hx, Option.map_eq_some_iff] at hentry
    obtain ⟨node, hnode, hfile⟩ := hentry
    obtain rfl := bare_eq_file.mp hfile
    exact .inl ⟨hx, hnode⟩
  · rw [if_neg hx, hnone, Option.map_none, Option.map_eq_none_iff] at hentry
    exact .inr ⟨hx, hentry⟩

theorem lookup_put_link {target : OsText} (hlink : es.lookup name = some (.link target)) :
    own.lookup name = some (.link target) := by
  have hx : l ++ [name] ≠ x := by
    rintro rfl
    rcases h.free_or_file with hshows | ⟨old, hshows⟩ <;>
      simp [shows_append hl, hlink, bare] at hshows
  have hentry := lookup_put h hl hown name
  rw [if_neg hx, hlink, Option.map_some, Option.map_eq_some_iff] at hentry
  obtain ⟨node, hnode, hbare⟩ := hentry
  rw [hnode, bare_eq_link.mp hbare]

theorem lookup_put_other {child : Node} (hchild : es.lookup name = some child)
    (hlink : ∀ target, child ≠ .link target) :
    ∃ now, own.lookup name = some now ∧ ∀ target, now ≠ .link target := by
  have hentry := lookup_put h hl hown name
  rw [hchild] at hentry
  split at hentry
  all_goals
    obtain ⟨now, hnow, hbare⟩ := Option.map_eq_some_iff.mp hentry
    refine ⟨now, hnow, ?_⟩
    rintro target rfl
  · simp [bare] at hbare
  · exact hlink target (bare_eq_link.mp hbare.symm)

end Put

end Node

namespace Disk

section Follow
variable {root : Node} {fuel : Nat} {l x : Location} {todo rest : List Step}
  {es : List (OsText × Node)} {n : OsText} {content : Bytes}

theorem follow_enter {child : Node} (hdir : root.get? l = some (.dir es))
    (hn : ¬ nameBound < n.bytes.length) (hsome : es.lookup n = some child)
    (hlink : ∀ target, child ≠ .link target) :
    follow root true fuel l (.name n :: rest) = follow root true fuel (l ++ [n]) rest := by
  rw [follow, hdir]
  cases child with
  | link target => exact absurd rfl (hlink target)
  | file old => simp only [hn, if_false, hsome]
  | locked => simp only [hn, if_false, hsome]
  | dir below => simp only [hn, if_false, hsome]

theorem toOption_follow_off (h : ¬ ∃ es, root.get? l = some (.dir es)) (step : Step) :
    (follow root true fuel l (step :: rest)).toOption = none := by
  rw [follow]
  split
  next es hdir => exact absurd ⟨es, hdir⟩ h
  all_goals rfl

def taken (x : Location) : Place → Place
  | .free l => if l = x then .node l else .free l
  | place => place

open Node in
/-- The faults may be others: what was missing on a way can now be a file that bars it. -/
theorem toOption_follow_put (h : Spot root x) (content : Bytes) :
    (follow (put (.file content) x root) true fuel l todo).toOption =
      (follow root true fuel l todo).toOption.map (taken x) := by
  fun_induction follow root true fuel l todo with
  | case1 fuel l => rw [follow]; rfl
  | case2 fuel l rest es hdir ih =>
    obtain ⟨own, hown⟩ := get?_put_dir h content hdir
    rw [follow, hown]
    exact ih
  | case3 fuel l rest es hdir ih =>
    obtain ⟨own, hown⟩ := get?_put_dir h content hdir
    rw [follow, hown]
    exact ih
  | case4 fuel l rest es hdir n hn =>
    obtain ⟨own, hown⟩ := get?_put_dir h content hdir
    simp [follow, hown, hn, Except.toOption]
  | case5 fuel l es hdir n hn hnone =>
    obtain ⟨own, hown⟩ := get?_put_dir h content hdir
    rcases lookup_put_none h hdir hown hnone with ⟨hx, hfile⟩ | ⟨hx, hfree⟩
    · -- The place was free and is that of the new file.
      rw [follow_enter hown hn hfile (by simp), follow]
      simp [Except.toOption, taken, hx]
    · simp [follow, hown, hn, hfree, Except.toOption, taken, hx]
  | case6 fuel l rest es hdir n hn hnone hrest =>
    obtain ⟨own, hown⟩ := get?_put_dir h content hdir
    obtain ⟨step, rest, rfl⟩ := List.exists_cons_of_ne_nil hrest
    rcases lookup_put_none h hdir hown hnone with ⟨hx, hfile⟩ | ⟨hx, hfree⟩
    · -- The way went on behind a missing name; now it stops at the file of that name.
      rw [follow_enter hown hn hfile (by simp), toOption_follow_off]
      · rfl
      · rw [exists_dir_put h, hx]
        exact h.not_dir
    · simp [follow, hown, hn, hfree, Except.toOption]
  | case7 fuel l rest es hdir n hn target hsome hlast => simp at hlast
  | case8 l rest es hdir n hn target hsome hlast =>
    obtain ⟨own, hown⟩ := get?_put_dir h content hdir
    simp [follow, hown, hn, lookup_put_link h hdir hown hsome, Except.toOption]
  | case9 l rest es hdir n hn target hsome hlast fuel ih =>
    obtain ⟨own, hown⟩ := get?_put_dir h content hdir
    simpa [follow, hown, hn, lookup_put_link h hdir hown hsome] using ih
  | case10 fuel l rest es hdir n hn child hlink hsome ih =>
    obtain ⟨own, hown⟩ := get?_put_dir h content hdir
    obtain ⟨now, hnow, hother⟩ := lookup_put_other h hdir hown hsome hlink
    rw [follow_enter hown hn hnow hother]
    exact ih
  | case11 fuel l step rest node hdir hnode =>
    have hoff : ¬ ∃ es, root.get? l = some (.dir es) := by
      rintro ⟨es, he⟩
      exact hdir es (Option.some.inj (hnode.symm.trans he))
    rw [toOption_follow_off fun hdir => hoff ((exists_dir_put h content).mp hdir)]
    rfl
  | case12 fuel l step rest hnone =>
    have hoff : ¬ ∃ es, root.get? l = some (.dir es) := by simp [hnone]
    rw [toOption_follow_off fun hdir => hoff ((exists_dir_put h content).mp hdir)]
    rfl

theorem Leads.start {place : Place} (h : Leads root fuel l todo place) (hne : todo ≠ []) :
    ∃ es, root.get? l = some (.dir es) := by
  cases h with
  | done => contradiction
  | here hdir => exact ⟨_, hdir⟩
  | up hdir => exact ⟨_, hdir⟩
  | free hdir => exact ⟨_, hdir⟩
  | enter hdir => exact ⟨_, hdir⟩
  | link hdir => exact ⟨_, hdir⟩

theorem exists_get?_dropLast {node : Node} (h : root.get? l = some node) :
    ∃ above, root.get? l.dropLast = some above := by
  by_cases hl : l = []
  · subst hl
    exact ⟨root, Node.get?_nil root⟩
  · rw [← List.dropLast_append_getLast hl, Node.get?_append] at h
    obtain ⟨above, habove, -⟩ := Option.bind_eq_some_iff.mp h
    exact ⟨above, habove⟩

theorem Leads.exists_node {place : Place} (h : Leads root fuel l todo place)
    (hl : ∃ node, root.get? l = some node) (hx : place = .node x) :
    ∃ node, root.get? x = some node := by
  induction h with
  | done fuel l =>
    obtain rfl : l = x := by injection hx
    exact hl
  | here _ _ ih => exact ih hl hx
  | up hdir _ ih => exact ih (exists_get?_dropLast hdir) hx
  | free => contradiction
  | @enter fuel l es n child rest place hdir _ hsome _ _ ih =>
    refine ih ⟨child, ?_⟩ hx
    simp [Node.get?_append, hdir, Node.get?_cons, Node.child?, Node.entries, hsome]
  | link hdir _ _ _ ih =>
    refine ih ?_ hx
    split
    · exact ⟨root, Node.get?_nil root⟩
    · exact ⟨_, hdir⟩

end Follow

variable {d : Disk} {p q : Path} {x : Location} {place : Place}

def Place.spot? (root : Node) : Place → Option Location
  | .free x => some x
  | .node x => if (root.get? x).any Node.isOpen then some x else none

def Place.fault (root : Node) : Place → Fault
  | .free _ => .notFound
  | .node x =>
    match root.get? x with
    | some .locked => .denied
    | _ => .isADirectory

theorem Place.spot?_node {root : Node} {y : Location} : (Place.node y).spot? root = some x ↔
    y = x ∧ ∃ content, root.get? y = some (.file content) := by
  rw [spot?]
  cases root.get? y with
  | none => simp
  | some node => cases node <;> simp [Node.isOpen]

def aim (d : Disk) (p : Path) : Except Fault Location := do
  let place ← d.writePlace p
  match place.spot? d.root with
  | some x => .ok x
  | none => .error (place.fault d.root)

def putFile (d : Disk) (content : Bytes) (x : Location) : Disk :=
  { d with root := .put (.file content) x d.root }

/-- A write succeeds exactly when there is a location for it, and puts the file there. -/
theorem write_eq_map_aim (d : Disk) (p : Path) (content : Bytes) :
    d.write p content = (d.aim p).map (d.putFile content) := by
  rw [write, aim]
  cases d.writePlace p with
  | error fault => rfl
  | ok place =>
    cases place with
    | free x => rfl
    | node x =>
      simp only [bind, Except.bind, Place.spot?, Place.fault]
      cases d.root.get? x with
      | none => rfl
      | some node => cases node <;> rfl

theorem toOption_aim (d : Disk) (p : Path) :
    (d.aim p).toOption = (d.writePlace p).toOption.bind (Place.spot? d.root) := by
  rw [aim]
  cases d.writePlace p with
  | error fault => rfl
  | ok place =>
    simp only [bind, Except.bind, Except.toOption, Option.bind_some]
    cases place.spot? d.root <;> rfl

theorem aim_eq_ok_iff : d.aim p = .ok x ↔
    ∃ place, d.writePlace p = .ok place ∧ place.spot? d.root = some x := by
  rw [aim]
  cases d.writePlace p with
  | error fault => simp [bind, Except.bind]
  | ok place => cases hs : place.spot? d.root <;> simp [bind, Except.bind, hs]

theorem steps_ne_nil (raw : OsText) : steps raw ≠ [] := by
  simp [steps, Path.pieces, Path.piecesFrom_ne_nil]

theorem spot_of_aim (h : d.aim p = .ok x) : d.root.Spot x := by
  obtain ⟨place, hp, hx⟩ := aim_eq_ok_iff.mp h
  have hleads := leads_of_writePlace hp
  cases place with
  | free y =>
    obtain rfl : y = x := by simpa [Place.spot?] using hx
    obtain ⟨dir, es, n, rfl, hdir, hnone⟩ := hleads.in_dir rfl
    exact Node.spot_of_free hdir hnone
  | node y =>
    obtain ⟨rfl, content, hfile⟩ := Place.spot?_node.mp hx
    obtain ⟨es, hstart⟩ := hleads.start (steps_ne_nil p.raw)
    obtain ⟨own, hroot⟩ := Node.isDir_of_get? hstart
    rw [hroot] at hfile ⊢
    exact Node.spot_of_file hfile

theorem writePlace_of_endsOpen (h : p.endsOpen = true) :
    ∃ fault, d.writePlace p = .error fault := by
  rw [writePlace, if_pos h]
  simp only [bind, Except.bind]
  repeat' split
  all_goals exact ⟨_, rfl⟩

theorem writePlace_of_not_endsOpen (h : ¬ p.endsOpen = true) : d.writePlace p = d.place p true := by
  rw [writePlace, if_neg h]

theorem toOption_place_putFile (h : d.root.Spot x) (content : Bytes) (p : Path) :
    ((d.putFile content x).place p true).toOption = (d.place p true).toOption.map (taken x) := by
  rw [place, place]
  cases checkText p with
  | error fault => rfl
  | ok u =>
    simp only [bind, Except.bind]
    split
    · rfl
    · exact toOption_follow_put h content

theorem toOption_writePlace_putFile (h : d.root.Spot x) (content : Bytes) (p : Path) :
    ((d.putFile content x).writePlace p).toOption = (d.writePlace p).toOption.map (taken x) := by
  by_cases hs : p.endsOpen = true
  · obtain ⟨fault, hf⟩ := writePlace_of_endsOpen (d := d) hs
    obtain ⟨other, ho⟩ := writePlace_of_endsOpen (d := d.putFile content x) hs
    rw [hf, ho]
    rfl
  · rw [writePlace_of_not_endsOpen hs, writePlace_of_not_endsOpen hs]
    exact toOption_place_putFile h content p

theorem shows_putFile (h : d.root.Spot x) (content : Bytes) (l : Location) :
    (d.putFile content x).root.shows l = if l = x then some (.file content) else d.root.shows l :=
  Node.shows_put h content l

theorem any_isOpen_get? (n : Node) (l : Location) :
    (n.get? l).any Node.isOpen = (n.shows l).any Node.isOpen := by
  rw [Node.shows, Option.any_map]
  congr 1
  funext node
  cases node <;> rfl

theorem spot?_taken (h : d.root.Spot x) (content : Bytes)
    (hplace : ∀ y, place = .node y → ∃ node, d.root.get? y = some node) :
    (taken x place).spot? (d.putFile content x).root = place.spot? d.root := by
  cases place with
  | free y =>
    by_cases hy : y = x
    · subst hy
      have hfile : ((d.putFile content y).root.get? y).any Node.isOpen = true := by
        simp [any_isOpen_get?, shows_putFile h, Node.isOpen]
      simp [taken, Place.spot?, hfile]
    · simp [taken, Place.spot?, hy]
  | node y =>
    simp only [taken, Place.spot?, any_isOpen_get?, shows_putFile h]
    by_cases hy : y = x
    · subst hy
      obtain ⟨node, hnode⟩ := hplace y rfl
      have hfile : (d.root.shows y).any Node.isOpen = true := by
        rcases h.free_or_file with hnone | ⟨old, hold⟩
        · simp [Node.shows, hnode] at hnone
        · simp [hold, Node.isOpen]
      simp [hfile, Node.isOpen]
    · rw [if_neg hy]

/-- Once a file was written, every path can be written to, or not, as before. -/
theorem toOption_aim_putFile (h : d.root.Spot x) (content : Bytes) (p : Path) :
    ((d.putFile content x).aim p).toOption = (d.aim p).toOption := by
  rw [toOption_aim, toOption_aim, toOption_writePlace_putFile h]
  cases hp : d.writePlace p with
  | error fault => rfl
  | ok place =>
    have hleads := leads_of_writePlace hp
    obtain ⟨es, hstart⟩ := hleads.start (steps_ne_nil p.raw)
    exact spot?_taken h content fun y hy => hleads.exists_node ⟨_, hstart⟩ hy

theorem read_of_aim {content : Bytes} (h : d.aim p = .ok x)
    (hx : d.root.get? x = some (.file content)) : d.read p = .ok content := by
  obtain ⟨place, hp, hspot⟩ := aim_eq_ok_iff.mp h
  have hs : ¬ p.endsOpen = true := by
    intro hs
    obtain ⟨fault, hf⟩ := writePlace_of_endsOpen (d := d) hs
    rw [hf] at hp
    contradiction
  have hnode : place = .node x := by
    cases place with
    | free y =>
      obtain rfl : y = x := by simpa [Place.spot?] using hspot
      rw [(leads_of_writePlace hp).get?_free rfl] at hx
      contradiction
    | node y => rw [(Place.spot?_node.mp hspot).1]
  rw [writePlace_of_not_endsOpen hs, hnode] at hp
  simp [read, locate, hp, Place.location?, hx, bind, Except.bind]

end Disk

end MetaLint
