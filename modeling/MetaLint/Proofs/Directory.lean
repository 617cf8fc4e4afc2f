import MetaLint.Disk
import MetaLint.Proofs.PathText

/-!
# Paths that lead to a directory

Steps that stay in place matter only where they fail, so spellings of one path with equal components
cannot lead to different places. What leads to a directory can therefore not be read in any
spelling, and it still leads there after a file was written.
-/

set_option autoImplicit false

namespace MetaLint

def Path.Component.step? : Path.Component → Option Disk.Step
  | .root => none
  | .here => none
  | .up => some .up
  | .name raw => some (.name raw)

namespace Disk

theorem filter_map_ofPiece (pieces : List OsText) :
    (pieces.map Step.ofPiece).filter (· != .here) =
      (pieces.filterMap Path.Component.ofPiece?).filterMap Path.Component.step? := by
  induction pieces with
  | nil => rfl
  | cons piece rest ih =>
    by_cases hhere : piece = ("" : OsText) ∨ piece = ("." : OsText)
    · simp [Step.ofPiece, Path.Component.ofPiece?, hhere, ih]
    · by_cases hup : piece = (".." : OsText)
      · simp [Step.ofPiece, Path.Component.ofPiece?, Path.Component.step?, hup, ih]
      · simp [Step.ofPiece, Path.Component.ofPiece?, Path.Component.step?, hhere, hup, ih]

theorem filter_steps (p : Path) : (steps p.raw).filter (· != .here) =
    p.components.filterMap Path.Component.step? := by
  rw [steps, Path.components]
  cases hp : Path.pieces p.raw with
  | nil => rfl
  | cons first rest =>
    have hrest := filter_map_ofPiece rest
    rw [List.map_cons, List.filter_cons, hrest, List.filterMap_append]
    by_cases hnone : first = ("" : OsText)
    · cases rest <;> simp [hnone, Step.ofPiece, Path.Component.step?]
    · by_cases hdot : first = ("." : OsText)
      · simp [hdot, Step.ofPiece, Path.Component.step?]
      · by_cases hup : first = (".." : OsText)
        · simp [hup, Step.ofPiece, Path.Component.ofPiece?, Path.Component.step?]
        · simp [hnone, hdot, hup, Step.ofPiece, Path.Component.ofPiece?, Path.Component.step?]

theorem startsAtRoot_of_same {p q : Path} (h : p.same q = true) :
    Path.startsAtRoot p.raw = Path.startsAtRoot q.raw := by
  rw [Bool.eq_iff_iff, ← Path.isAbsolute_iff, ← Path.isAbsolute_iff, Path.IsAbsolute,
    Path.IsAbsolute, (Path.same_iff p q).mp h]

/-- The steps of a way through a tree, with a bound on the links in it, and the place it ends at. -/
inductive Leads (root : Node) : Nat → Location → List Step → Place → Prop
  | done (fuel : Nat) (l : Location) : Leads root fuel l [] (.node l)
  | here {fuel : Nat} {l : Location} {es : List (OsText × Node)} {rest : List Step} {place : Place}
      (hdir : root.get? l = some (.dir es)) (hrest : Leads root fuel l rest place) :
      Leads root fuel l (.here :: rest) place
  | up {fuel : Nat} {l : Location} {es : List (OsText × Node)} {rest : List Step} {place : Place}
      (hdir : root.get? l = some (.dir es)) (hrest : Leads root fuel l.dropLast rest place) :
      Leads root fuel l (.up :: rest) place
  | free {fuel : Nat} {l : Location} {es : List (OsText × Node)} {n : OsText}
      (hdir : root.get? l = some (.dir es)) (hn : n.bytes.length ≤ nameBound)
      (hnone : es.lookup n = none) : Leads root fuel l [.name n] (.free (l ++ [n]))
  | enter {fuel : Nat} {l : Location} {es : List (OsText × Node)} {n : OsText} {child : Node}
      {rest : List Step} {place : Place} (hdir : root.get? l = some (.dir es))
      (hn : n.bytes.length ≤ nameBound) (hsome : es.lookup n = some child)
      (hlink : ∀ target, child ≠ .link target) (hrest : Leads root fuel (l ++ [n]) rest place) :
      Leads root fuel l (.name n :: rest) place
  | link {fuel : Nat} {l : Location} {es : List (OsText × Node)} {n target : OsText}
      {rest : List Step} {place : Place} (hdir : root.get? l = some (.dir es))
      (hn : n.bytes.length ≤ nameBound) (hsome : es.lookup n = some (.link target))
      (hrest : Leads root fuel (if Path.startsAtRoot target then [] else l) (steps target ++ rest)
      place) :
      Leads root (fuel + 1) l (.name n :: rest) place

theorem leads_of_follow {root : Node} {fuel : Nat} {l : Location} {todo : List Step} {place : Place}
    (h : follow root true fuel l todo = .ok place) : Leads root fuel l todo place := by
  fun_induction follow root true fuel l todo with
  | case1 fuel l =>
    obtain rfl := Except.ok.inj h
    exact .done fuel l
  | case2 fuel l rest es hdir ih => exact .here hdir (ih h)
  | case3 fuel l rest es hdir ih => exact .up hdir (ih h)
  | case4 => contradiction
  | case5 fuel l es hdir n hn hnone =>
    obtain rfl := Except.ok.inj h
    exact .free hdir (Nat.not_lt.mp hn) hnone
  | case6 => contradiction
  | case7 fuel l rest es hdir n hn target hsome hlast => simp at hlast
  | case8 => contradiction
  | case9 l rest es hdir n hn target hsome hlast fuel ih =>
    exact .link hdir (Nat.not_lt.mp hn) hsome (ih h)
  | case10 fuel l rest es hdir n hn child hlink hsome ih =>
    exact .enter hdir (Nat.not_lt.mp hn) hsome hlink (ih h)
  | case11 => contradiction
  | case12 => contradiction

theorem follow_of_leads {root : Node} {fuel : Nat} {l : Location} {todo : List Step} {place : Place}
    (h : Leads root fuel l todo place) : follow root true fuel l todo = .ok place := by
  induction h with
  | done fuel l => rw [follow]
  | here hdir _ ih => rw [follow, hdir]; exact ih
  | up hdir _ ih => rw [follow, hdir]; exact ih
  | free hdir hn hnone => simp [follow, hdir, Nat.not_lt.mpr hn, hnone]
  | @enter fuel l es n child rest place hdir hn hsome hlink _ ih =>
    cases child with
    | file content => simpa [follow, hdir, Nat.not_lt.mpr hn, hsome] using ih
    | locked => simpa [follow, hdir, Nat.not_lt.mpr hn, hsome] using ih
    | dir es => simpa [follow, hdir, Nat.not_lt.mpr hn, hsome] using ih
    | link target => exact absurd rfl (hlink target)
  | link hdir hn hsome _ ih => simpa [follow, hdir, Nat.not_lt.mpr hn, hsome] using ih

section Leads
variable {root : Node} {fuel : Nat} {l : Location} {todo : List Step} {place : Place}

theorem Leads.filter {first rest : List Step} (h : Leads root fuel l (first ++ rest) place) :
    Leads root fuel l (first ++ rest.filter (· != .here)) place := by
  generalize htodo : first ++ rest = todo at h
  induction h generalizing first rest with
  | done fuel l =>
    obtain ⟨rfl, rfl⟩ := List.append_eq_nil_iff.mp htodo
    exact .done fuel l
  | @here fuel l es todo place hdir hrest ih =>
    rcases List.append_eq_cons_iff.mp htodo with ⟨rfl, rfl⟩ | ⟨first, rfl, rfl⟩
    · exact @ih [] todo rfl
    · exact .here hdir (ih rfl)
  | up hdir hrest ih =>
    rcases List.append_eq_cons_iff.mp htodo with ⟨rfl, rfl⟩ | ⟨first, rfl, rfl⟩
    · exact .up hdir (@ih [] _ rfl)
    · exact .up hdir (ih rfl)
  | free hdir hn hnone =>
    rcases List.append_eq_cons_iff.mp htodo with ⟨rfl, rfl⟩ | ⟨first, rfl, hnil⟩
    · exact .free hdir hn hnone
    · obtain ⟨rfl, rfl⟩ := List.append_eq_nil_iff.mp hnil.symm
      exact .free hdir hn hnone
  | enter hdir hn hsome hlink hrest ih =>
    rcases List.append_eq_cons_iff.mp htodo with ⟨rfl, rfl⟩ | ⟨first, rfl, rfl⟩
    · exact .enter hdir hn hsome hlink (@ih [] _ rfl)
    · exact .enter hdir hn hsome hlink (ih rfl)
  | @link fuel l es n target rest' place hdir hn hsome hrest ih =>
    rcases List.append_eq_cons_iff.mp htodo with ⟨rfl, rfl⟩ | ⟨first, rfl, rfl⟩
    · exact .link hdir hn hsome (ih rfl)
    · have hfirst := @ih (steps target ++ first) rest (List.append_assoc _ _ _)
      rw [List.append_assoc] at hfirst
      exact .link hdir hn hsome hfirst

theorem Leads.unique {others : List Step} {end_ : Place} (h : Leads root fuel l todo place)
    (k : Leads root fuel l others end_)
    (he : todo.filter (· != .here) = others.filter (· != .here)) : place = end_ := by
  have hh := follow_of_leads (@Leads.filter _ _ _ _ [] todo h)
  have hk := follow_of_leads (@Leads.filter _ _ _ _ [] others k)
  rw [List.nil_append] at hh hk
  rw [he, hk] at hh
  exact (Except.ok.inj hh).symm

end Leads

def LeadsToDir (d : Disk) (p : Path) : Prop :=
  ∃ l es, d.placeOf p true (steps p.raw) = .ok (.node l) ∧ d.root.get? l = some (.dir es)

theorem placeOf_of_place {d : Disk} {p : Path} {followLast : Bool} {place : Place}
    (h : d.place p followLast = .ok place) : d.placeOf p followLast (steps p.raw) = .ok place := by
  rw [Disk.place] at h
  cases hc : checkText p with
  | error fault => simp [hc, bind, Except.bind] at h
  | ok u =>
    by_cases hb : pathBound ≤ p.raw.bytes.length
    · simp [hc, hb, bind, Except.bind] at h
    · simpa [hc, hb, bind, Except.bind] using h

theorem place_of_locate {d : Disk} {p : Path} {l : Location} (h : d.locate p = .ok l) :
    d.place p true = .ok (.node l) := by
  rw [locate] at h
  cases hp : d.place p true with
  | error fault => simp [hp, bind, Except.bind] at h
  | ok place =>
    cases place with
    | node other => simpa [hp, bind, Except.bind, Place.location?] using h
    | free other => simp [hp, bind, Except.bind, Place.location?] at h

theorem placeOf_of_trace {d : Disk} {p : Path} {l : Location} (h : d.trace p = .ok l) :
    d.placeOf p true (steps p.raw) = .ok (.node l) := by
  rw [trace] at h
  cases hc : checkText p with
  | error fault => simp [hc, bind, Except.bind] at h
  | ok u =>
    cases hp : d.placeOf p true (steps p.raw) with
    | error fault => simp [hc, hp, bind, Except.bind] at h
    | ok place =>
      cases place with
      | node other => simpa [hc, hp, bind, Except.bind, Place.location?] using h
      | free other => simp [hc, hp, bind, Except.bind, Place.location?] at h

/-- Spellings of one path do not lead to different places. -/
theorem placeOf_unique {d : Disk} {p q : Path} {here there : Place} (hs : p.same q = true)
    (hp : d.placeOf p true (steps p.raw) = .ok here)
    (hq : d.placeOf q true (steps q.raw) = .ok there) : here = there := by
  have hleads := leads_of_follow hq
  have hsteps : (steps p.raw).filter (· != .here) = (steps q.raw).filter (· != .here) := by
    rw [filter_steps, filter_steps, (Path.same_iff p q).mp hs]
  rw [← startsAtRoot_of_same hs] at hleads
  exact (leads_of_follow hp).unique hleads hsteps

theorem LeadsToDir.read_eq_error {d : Disk} {p q : Path} (h : d.LeadsToDir p)
    (hs : p.same q = true) : ∃ fault, d.read q = .error fault := by
  obtain ⟨l, es, hp, hdir⟩ := h
  cases hl : d.locate q with
  | error fault => exact ⟨fault, by simp [read, hl, bind, Except.bind]⟩
  | ok other =>
    have hplace := placeOf_unique hs hp (placeOf_of_place (place_of_locate hl))
    obtain rfl : l = other := by injection hplace
    exact ⟨.isADirectory, by simp [read, hl, hdir, bind, Except.bind]⟩

end Disk

namespace Node

theorem get?_append (n : Node) (x y : Location) :
    n.get? (x ++ y) = (n.get? x).bind (·.get? y) := by
  induction x generalizing n with
  | nil => simp
  | cons name x ih =>
    rw [List.cons_append, get?_cons, get?_cons]
    cases n.child? name with
    | none => rfl
    | some child => exact ih child

theorem get?_of_not_dir {n : Node} (h : n.isDir = false) {x : Location} {m : Node}
    (hx : n.get? x = some m) : x = [] ∧ m = n := by
  cases x with
  | nil =>
    rw [get?_nil] at hx
    exact ⟨rfl, (Option.some.inj hx).symm⟩
  | cons name x => cases n <;> simp_all [isDir, get?, child?, entries]

theorem isDir_of_get? {n : Node} {x : Location} {es : List (OsText × Node)}
    (h : n.get? x = some (.dir es)) : ∃ own, n = .dir own := by
  cases hd : n.isDir with
  | true =>
    cases n with
    | dir own => exact ⟨own, rfl⟩
    | file content => cases hd
    | locked => cases hd
    | link target => cases hd
  | false => exact ⟨es, (get?_of_not_dir hd h).2.symm⟩

/-- A node that is put where there is no directory leaves the directories in place. -/
theorem get?_put {node n : Node} {x l : Location} {es : List (OsText × Node)}
    (hl : n.get? l = some (.dir es)) (hx : ¬ x <+: l) :
    ∃ now, (put node x n).get? l = some (.dir now) := by
  induction x generalizing n l with
  | nil => exact absurd (List.nil_prefix) hx
  | cons name rest ih =>
    obtain ⟨own, rfl⟩ := isDir_of_get? hl
    cases l with
    | nil =>
      cases rest with
      | nil => exact ⟨_, by simp [put]; rfl⟩
      | cons next more =>
        cases hc : own.lookup name with
        | none => exact ⟨own, by simp [put, hc]⟩
        | some child => exact ⟨_, by simp [put, hc]; rfl⟩
    | cons first l =>
      rw [get?_cons] at hl
      by_cases hf : first = name
      · cases rest with
        | nil => simp [hf] at hx
        | cons next more =>
          cases hc : own.lookup name with
          | none => exact ⟨es, by simpa [put, hc, get?_cons] using hl⟩
          | some child =>
            have hchild : child.get? l = some (.dir es) := by
              simpa [hf, child?, entries, hc] using hl
            obtain ⟨now, hnow⟩ := ih hchild (by simpa [hf, List.cons_prefix_cons] using hx)
            refine ⟨now, ?_⟩
            simp [put, hc, get?_cons, child?, entries, hf, lookup_putEntry_self, hnow]
      · refine ⟨es, ?_⟩
        cases rest with
        | nil =>
          simpa [put, get?_cons, child?, entries, lookup_putEntry_of_ne hf] using hl
        | cons next more =>
          cases hc : own.lookup name with
          | none => simpa [put, hc, get?_cons] using hl
          | some child =>
            simpa [put, hc, get?_cons, child?, entries, lookup_putEntry_of_ne hf] using hl

end Node

end MetaLint
