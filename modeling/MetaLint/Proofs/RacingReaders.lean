import Mathlib
import MetaLint.Proofs.ReadingInTurns

/-!
# Readers that race for a file

A reader that finds a file lacking takes it from the disk and leaves it with the finder, in the
place of what others left there meanwhile. Every text that readers are told was with the finder from
the start or taken from the disk, and every text that was taken is told. So the readers of a file
are told the same exactly when all that was taken of it is the same: when no two of them are
fetching it at once, or when its content stays as it is.
-/

set_option autoImplicit false

namespace MetaLint

theorem Path.same_comm (p q : Path) : p.same q = q.same p := by
  rw [Bool.eq_iff_iff, Path.same_iff, Path.same_iff]
  exact eq_comm

theorem Path.same_congr {p q : Path} (h : p.same q = true) (r : Path) : p.same r = q.same r := by
  rw [Bool.eq_iff_iff, Path.same_iff, Path.same_iff, (Path.same_iff p q).mp h]

theorem Finder.cached?_congr (f : Finder) {p q : Path} (h : p.same q = true) :
    f.cached? p = f.cached? q := by
  have hsame : (fun entry : Path × List Char => p.same entry.1) = fun entry => q.same entry.1 :=
    funext fun entry => Path.same_congr h entry.1
  rw [cached?, cached?, hsame]

namespace FileReading

variable {f : Finder} {d : Disk} {text : List Char}

def isFetching : FileReading → Bool
  | .lacking _ | .loaded _ _ => true
  | .asked _ | .answered _ _ => false

def taken? : FileReading → Option (List Char)
  | .loaded _ text => some text
  | _ => none

theorem isFetching_of_taken? {reading : FileReading} (h : reading.taken? = some text) :
    reading.isFetching = true := by
  cases reading <;> first | rfl | contradiction

theorem text?_step {reading : FileReading} (h : (reading.step f d).1.text? = some text) :
    reading.text? = some text ∨ f.cached? reading.path = some text ∨
      reading.taken? = some text := by
  cases reading with
  | asked p =>
    rw [step] at h
    cases hc : f.cached? p with
    | none =>
      rw [hc] at h
      contradiction
    | some own =>
      rw [hc] at h
      exact Or.inr (Or.inl (hc.trans h))
  | lacking p =>
    rw [step] at h
    split at h <;> contradiction
  | loaded p own => exact Or.inr (Or.inr h)
  | answered p result => exact Or.inl h

theorem text?_step_of_text? {reading : FileReading} (h : reading.text? = some text) :
    (reading.step f d).1.text? = some text := by
  cases reading with
  | answered p result => exact h
  | asked p => contradiction
  | lacking p => contradiction
  | loaded p own => contradiction

theorem text?_step_of_taken? {reading : FileReading} (h : reading.taken? = some text) :
    (reading.step f d).1.text? = some text := by
  cases reading with
  | loaded p own => exact h
  | asked p => contradiction
  | lacking p => contradiction
  | answered p result => contradiction

theorem isFetching_step {reading : FileReading} (h : (reading.step f d).1.isFetching = true) :
    reading.taken? = none ∧ (reading.isFetching = true ∨ f.cached? reading.path = none) := by
  cases reading with
  | asked p =>
    rw [step] at h
    cases hc : f.cached? p with
    | none => exact ⟨rfl, Or.inr hc⟩
    | some own =>
      rw [hc] at h
      contradiction
  | lacking p => exact ⟨rfl, Or.inl rfl⟩
  | loaded p own => contradiction
  | answered p result => contradiction

theorem taken?_step {reading : FileReading} (h : (reading.step f d).1.taken? = some text) :
    d.load reading.path = .ok text := by
  cases reading with
  | asked p =>
    rw [step] at h
    split at h <;> contradiction
  | lacking p =>
    rw [path, Disk.load]
    rw [step] at h
    cases hr : d.read p with
    | ok bytes =>
      rw [hr] at h
      exact congrArg Except.ok (Option.some.inj h)
    | error fault =>
      rw [hr] at h
      contradiction
  | loaded p own => contradiction
  | answered p result => contradiction

theorem cached?_step (f : Finder) (d : Disk) (reading : FileReading) (p : Path) :
    (reading.step f d).2.cached? p =
      (if reading.path.same p then reading.taken? else none).or (f.cached? p) := by
  have hkept : reading.taken? = none → (reading.step f d).2 = f →
      (reading.step f d).2.cached? p =
        (if reading.path.same p then reading.taken? else none).or (f.cached? p) := by
    intro hnone hf
    rw [hnone, hf, ite_self, Option.none_or]
  cases reading with
  | asked q =>
    apply hkept rfl
    rw [step]
    split <;> rfl
  | lacking q =>
    apply hkept rfl
    rw [step]
    split <;> rfl
  | loaded q own =>
    show (f.keep q own).cached? p = _
    rw [Finder.cached?_keep, Path.same_comm p q, path, taken?]
    cases q.same p <;> rfl
  | answered q result => exact hkept rfl rfl

end FileReading

namespace SharedFinder

variable {s : SharedFinder} {p : Path} {text : List Char} {m : Move} {moves : List Move}

def toldOf (s : SharedFinder) (p : Path) : List (List Char) :=
  s.readers.filterMap fun reading => if reading.path.same p then reading.text? else none

/-- All readers of a file that were told its text were told the same. -/
def Alike (s : SharedFinder) (p : Path) : Prop := ∀ a ∈ s.toldOf p, ∀ b ∈ s.toldOf p, a = b

def taken? (s : SharedFinder) (p : Path) : Move → Option (List Char)
  | .advance r => (s.readers[r]?).bind fun reading =>
      if reading.path.same p then reading.taken? else none
  | .ask _ | .change _ => none

def taken (s : SharedFinder) (p : Path) : List Move → List (List Char)
  | [] => []
  | m :: moves => (s.taken? p m).toList ++ (s.step m).taken p moves

def FetchedBy (s : SharedFinder) (p : Path) (r : Nat) : Prop :=
  ∃ reading, s.readers[r]? = some reading ∧ reading.path.same p = true ∧ reading.isFetching = true

theorem mem_toldOf : text ∈ s.toldOf p ↔
    ∃ reading ∈ s.readers, reading.path.same p = true ∧ reading.text? = some text := by
  rw [toldOf, List.mem_filterMap]
  refine exists_congr fun reading => and_congr_right fun _ => ?_
  cases reading.path.same p <;> simp

theorem taken?_advance {r : Nat} : s.taken? p (.advance r) = some text ↔
    ∃ reading, s.readers[r]? = some reading ∧ reading.path.same p = true ∧
      reading.taken? = some text := by
  rw [taken?, Option.bind_eq_some_iff]
  refine exists_congr fun reading => and_congr_right fun _ => ?_
  cases reading.path.same p <;> simp

theorem mem_readers_step {reading : FileReading} (h : reading ∈ (s.step m).readers) :
    reading ∈ s.readers ∨ (∃ q, m = .ask q ∧ reading = .asked q) ∨
      ∃ r before, m = .advance r ∧ s.readers[r]? = some before ∧
        reading = (before.step s.finder s.disk).1 := by
  cases m with
  | ask q =>
    refine (List.mem_append.mp h).imp_right fun hq => Or.inl ?_
    exact ⟨q, rfl, List.mem_singleton.mp hq⟩
  | change disk => exact Or.inl h
  | advance r =>
    rw [step, advance] at h
    cases hr : s.readers[r]? with
    | none =>
      rw [hr] at h
      exact Or.inl h
    | some before =>
      rw [hr] at h
      refine (List.mem_or_eq_of_mem_set h).imp_right fun he => Or.inr ?_
      exact ⟨r, before, rfl, hr, he⟩

theorem cached?_move (s : SharedFinder) (p : Path) (m : Move) :
    (s.step m).finder.cached? p = (s.taken? p m).or (s.finder.cached? p) := by
  cases m with
  | ask q => rfl
  | change disk => rfl
  | advance r =>
    rw [step, advance, taken?]
    cases s.readers[r]? with
    | none => rfl
    | some reading => exact reading.cached?_step s.finder s.disk p

theorem mem_toldOf_step (h : text ∈ (s.step m).toldOf p) :
    text ∈ s.toldOf p ∨ s.finder.cached? p = some text ∨ s.taken? p m = some text := by
  obtain ⟨reading, hmem, hp, ht⟩ := mem_toldOf.mp h
  rcases mem_readers_step hmem with hold | ⟨q, -, rfl⟩ | ⟨r, before, rfl, hr, rfl⟩
  · exact Or.inl (mem_toldOf.mpr ⟨reading, hold, hp, ht⟩)
  · contradiction
  · rw [FileReading.path_step] at hp
    rcases FileReading.text?_step ht with ht | hc | hk
    · exact Or.inl (mem_toldOf.mpr ⟨before, List.mem_of_getElem? hr, hp, ht⟩)
    · exact Or.inr (Or.inl ((s.finder.cached?_congr hp).symm.trans hc))
    · exact Or.inr (Or.inr (taken?_advance.mpr ⟨before, hr, hp, hk⟩))

theorem getElem?_step {r : Nat} {reading : FileReading} (h : s.readers[r]? = some reading)
    (m : Move) : (s.step m).readers[r]? = some reading ∨
      (s.step m).readers[r]? = some (reading.step s.finder s.disk).1 := by
  cases m with
  | ask q => exact Or.inl (List.getElem?_append_left (List.getElem?_eq_some_iff.mp h).1 ▸ h)
  | change disk => exact Or.inl h
  | advance i =>
    rw [step, getElem?_readers_advance, h]
    split
    · exact Or.inr rfl
    · exact Or.inl rfl

theorem mem_toldOf_step_of_mem (h : text ∈ s.toldOf p) (m : Move) :
    text ∈ (s.step m).toldOf p := by
  obtain ⟨reading, hmem, hp, ht⟩ := mem_toldOf.mp h
  obtain ⟨r, hr⟩ := List.mem_iff_getElem?.mp hmem
  apply mem_toldOf.mpr
  rcases getElem?_step hr m with hr | hr
  · exact ⟨reading, List.mem_of_getElem? hr, hp, ht⟩
  · refine ⟨_, List.mem_of_getElem? hr, ?_, FileReading.text?_step_of_text? ht⟩
    rwa [FileReading.path_step]

theorem mem_toldOf_of_taken? (h : s.taken? p m = some text) : text ∈ (s.step m).toldOf p := by
  cases m with
  | ask q => contradiction
  | change disk => contradiction
  | advance r =>
    obtain ⟨reading, hr, hp, hk⟩ := taken?_advance.mp h
    apply mem_toldOf.mpr
    refine ⟨(reading.step s.finder s.disk).1, ?_, ?_, FileReading.text?_step_of_taken? hk⟩
    · apply List.mem_of_getElem? (i := r)
      rw [step, getElem?_readers_advance, if_pos rfl, hr]
      rfl
    · rwa [FileReading.path_step]

/-- Who fetches a file after a move has fetched it before, or has just found it lacking. In neither
case has it left the file with the finder. -/
theorem FetchedBy.of_step {r : Nat} (h : (s.step m).FetchedBy p r) :
    (s.FetchedBy p r ∨ m = .advance r ∧ s.finder.cached? p = none) ∧
      (m = .advance r → s.taken? p m = none) := by
  obtain ⟨reading, hr, hp, hf⟩ := h
  cases m with
  | change disk => exact ⟨Or.inl ⟨reading, hr, hp, hf⟩, Move.noConfusion⟩
  | ask q =>
    refine ⟨Or.inl ?_, Move.noConfusion⟩
    have hget : (s.readers ++ [FileReading.asked q])[r]? = some reading := hr
    rw [List.getElem?_append] at hget
    split at hget
    · exact ⟨reading, hget, hp, hf⟩
    · obtain rfl := List.mem_singleton.mp (List.mem_of_getElem? hget)
      contradiction
  | advance i =>
    rw [step, getElem?_readers_advance] at hr
    split at hr
    next hi =>
      subst hi
      obtain ⟨before, hbefore, rfl⟩ := Option.map_eq_some_iff.mp hr
      rw [FileReading.path_step] at hp
      obtain ⟨hnone, hfetch⟩ := FileReading.isFetching_step hf
      refine ⟨hfetch.imp (fun h => ⟨before, hbefore, hp, h⟩) fun h => ⟨rfl, ?_⟩, fun _ => ?_⟩
      · exact (s.finder.cached?_congr hp).symm.trans h
      · rw [taken?, hbefore]
        simp [hnone]
    next hi =>
      refine ⟨Or.inl ⟨reading, hr, hp, hf⟩, fun he => ?_⟩
      exact absurd (Move.advance.inj he) hi

theorem exists_fetchedBy (h : s.taken? p m = some text) :
    ∃ r, m = .advance r ∧ s.FetchedBy p r := by
  cases m with
  | ask q => contradiction
  | change disk => contradiction
  | advance r =>
    obtain ⟨reading, hr, hp, hk⟩ := taken?_advance.mp h
    exact ⟨r, rfl, reading, hr, hp, FileReading.isFetching_of_taken? hk⟩

theorem told_or_taken (h : text ∈ (s.perform moves).toldOf p) :
    text ∈ s.toldOf p ∨ s.finder.cached? p = some text ∨ text ∈ s.taken p moves := by
  induction moves generalizing s with
  | nil => exact Or.inl h
  | cons m moves ih =>
    rw [taken]
    rcases ih h with hold | hc | hk
    · rcases mem_toldOf_step hold with hold | hc | hk
      · exact Or.inl hold
      · exact Or.inr (Or.inl hc)
      · exact Or.inr (Or.inr (List.mem_append_left _ (Option.mem_toList.mpr hk)))
    · rw [cached?_move] at hc
      rcases Option.or_eq_some_iff.mp hc with hk | ⟨-, hc⟩
      · exact Or.inr (Or.inr (List.mem_append_left _ (Option.mem_toList.mpr hk)))
      · exact Or.inr (Or.inl hc)
    · exact Or.inr (Or.inr (List.mem_append_right _ hk))

theorem mem_toldOf_perform (moves : List Move) (h : text ∈ s.toldOf p) :
    text ∈ (s.perform moves).toldOf p := by
  induction moves generalizing s with
  | nil => exact h
  | cons m moves ih => exact ih (mem_toldOf_step_of_mem h m)

theorem mem_toldOf_of_taken (h : text ∈ s.taken p moves) : text ∈ (s.perform moves).toldOf p := by
  induction moves generalizing s with
  | nil => contradiction
  | cons m moves ih =>
    rcases List.mem_append.mp h with hk | hk
    · exact mem_toldOf_perform moves (mem_toldOf_of_taken? (Option.mem_toList.mp hk))
    · exact ih hk

theorem taken_of_settled (hc : (s.finder.cached? p).isSome = true) (hf : ∀ r, ¬ s.FetchedBy p r)
    (moves : List Move) : s.taken p moves = [] := by
  induction moves generalizing s with
  | nil => rfl
  | cons m moves ih =>
    have hnone : s.taken? p m = none := by
      apply Option.eq_none_iff_forall_not_mem.mpr
      intro text hk
      obtain ⟨r, -, hr⟩ := exists_fetchedBy hk
      exact hf r hr
    rw [taken, hnone, ih]
    · rfl
    · rw [cached?_move, hnone]
      exact hc
    · intro r hr
      rcases hr.of_step.1 with hr | ⟨-, hlacks⟩
      · exact hf r hr
      · rw [hlacks] at hc
        contradiction

def Unraced (s : SharedFinder) (p : Path) (moves : List Move) : Prop :=
  ∀ during, during <+: moves → ∀ r i, (s.perform during).FetchedBy p r →
    (s.perform during).FetchedBy p i → r = i

/-- Without a race a file is taken once at most: nobody else fetches it when it is brought, and then
the finder has it. -/
theorem length_taken_of_unraced (h : s.Unraced p moves) : (s.taken p moves).length ≤ 1 := by
  induction moves generalizing s with
  | nil => exact Nat.zero_le 1
  | cons m moves ih =>
    have hrest : (s.step m).Unraced p moves := fun during hduring =>
      h (m :: during) (List.cons_prefix_cons.mpr ⟨rfl, hduring⟩)
    rw [taken]
    cases hk : s.taken? p m with
    | none => exact ih hrest
    | some text =>
      obtain ⟨r, rfl, hr⟩ := exists_fetchedBy hk
      have hafter : (s.step (.advance r)).taken p moves = [] := by
        apply taken_of_settled
        · rw [cached?_move, hk]
          rfl
        · intro i hi
          obtain ⟨hbefore, hown⟩ := hi.of_step
          have hri : r = i := by
            rcases hbefore with hbefore | ⟨he, -⟩
            · exact h [] (List.nil_prefix) r i hr hbefore
            · exact Move.advance.inj he
          rw [hown (congrArg Move.advance hri)] at hk
          contradiction
      rw [hafter]
      exact Nat.le_refl 1

/-- The text has been the content of the file on the disk at some time during the moves. -/
def OnDisk (s : SharedFinder) (p : Path) (moves : List Move) (text : List Char) : Prop :=
  ∃ during q, during <+: moves ∧ q.same p = true ∧ (s.perform during).disk.load q = .ok text

def Honest (s : SharedFinder) (p : Path) (seen : List Char → Prop) : Prop :=
  ∀ reading ∈ s.readers, reading.path.same p = true → ∀ text, reading.taken? = some text → seen text

theorem honest_step {seen : List Char → Prop} (h : s.Honest p seen)
    (hd : ∀ q text, q.same p = true → s.disk.load q = .ok text → seen text) (m : Move) :
    (s.step m).Honest p seen := by
  intro reading hmem hp text hk
  rcases mem_readers_step hmem with hold | ⟨q, -, rfl⟩ | ⟨r, before, rfl, hr, rfl⟩
  · exact h reading hold hp text hk
  · contradiction
  · rw [FileReading.path_step] at hp
    exact hd _ _ hp (FileReading.taken?_step hk)

theorem seen_of_mem_taken {seen : List Char → Prop} (h : s.Honest p seen)
    (hd : ∀ during, during <+: moves → ∀ q text, q.same p = true →
      (s.perform during).disk.load q = .ok text → seen text)
    (ht : text ∈ s.taken p moves) : seen text := by
  induction moves generalizing s with
  | nil => contradiction
  | cons m moves ih =>
    rcases List.mem_append.mp ht with hk | hk
    · have hk := Option.mem_toList.mp hk
      cases m with
      | ask q => contradiction
      | change disk => contradiction
      | advance r =>
        obtain ⟨reading, hr, hp, hk⟩ := taken?_advance.mp hk
        exact h reading (List.mem_of_getElem? hr) hp text hk
    · refine ih (honest_step h (hd [] List.nil_prefix) m) (fun during hduring => ?_) hk
      exact hd (m :: during) (List.cons_prefix_cons.mpr ⟨rfl, hduring⟩)

def Unchanged (s : SharedFinder) (p : Path) (moves : List Move) : Prop :=
  ∀ a b, s.OnDisk p moves a → s.OnDisk p moves b → a = b

def Settled (s : SharedFinder) (p : Path) (text : List Char) : Prop :=
  s.finder.cached? p = some text ∧ ∀ r, ¬ s.FetchedBy p r

theorem told_of_settled (h : s.Settled p text) {other : List Char}
    (ho : other ∈ (s.perform moves).toldOf p) : other ∈ s.toldOf p ∨ other = text := by
  rcases told_or_taken ho with hold | hc | hk
  · exact Or.inl hold
  · exact Or.inr (Option.some.inj (hc.symm.trans h.1))
  · rw [taken_of_settled (by rw [h.1]; rfl) h.2] at hk
    contradiction

/-- What the readers of a file are told by a finder that nobody has asked before. -/
structure Told (s : SharedFinder) (p : Path) (moves : List Move) : Prop where
  source : ∀ text ∈ (s.perform moves).toldOf p,
    s.finder.cached? p = some text ∨ text ∈ s.taken p moves
  seen : ∀ text ∈ s.taken p moves, s.OnDisk p moves text
  alike_iff : (s.perform moves).Alike p ↔ ∀ a ∈ s.taken p moves, ∀ b ∈ s.taken p moves, a = b
  alike_of_unraced : s.Unraced p moves → (s.perform moves).Alike p
  alike_of_unchanged : s.Unchanged p moves → (s.perform moves).Alike p
  settled : ∀ before after text, moves = before ++ after → (s.perform before).Settled p text →
    ∀ other ∈ (s.perform moves).toldOf p, other ∈ (s.perform before).toldOf p ∨ other = text

section Unasked
variable (hs : s.readers = [])
include hs

theorem source_of_unasked (h : text ∈ (s.perform moves).toldOf p) :
    s.finder.cached? p = some text ∨ text ∈ s.taken p moves := by
  refine (told_or_taken h).resolve_left fun hold => ?_
  obtain ⟨reading, hmem, -⟩ := mem_toldOf.mp hold
  rw [hs] at hmem
  contradiction

theorem alike_iff_taken : (s.perform moves).Alike p ↔
    ∀ a ∈ s.taken p moves, ∀ b ∈ s.taken p moves, a = b := by
  constructor
  · intro h a ha b hb
    exact h a (mem_toldOf_of_taken ha) b (mem_toldOf_of_taken hb)
  · intro h a ha b hb
    cases hc : s.finder.cached? p with
    | none =>
      have htaken : ∀ text ∈ (s.perform moves).toldOf p, text ∈ s.taken p moves := by
        intro text ht
        refine (source_of_unasked hs ht).resolve_left fun hsome => ?_
        rw [hc] at hsome
        contradiction
      exact h a (htaken a ha) b (htaken b hb)
    | some text =>
      have hsettled : s.Settled p text := by
        refine ⟨hc, fun r hr => ?_⟩
        obtain ⟨reading, hget, -⟩ := hr
        rw [hs] at hget
        contradiction
      have hall : ∀ other ∈ (s.perform moves).toldOf p, other = text := by
        intro other ho
        refine (told_of_settled hsettled ho).resolve_left fun hold => ?_
        obtain ⟨reading, hmem, -⟩ := mem_toldOf.mp hold
        rw [hs] at hmem
        contradiction
      exact (hall a ha).trans (hall b hb).symm

theorem onDisk_of_mem_taken (h : text ∈ s.taken p moves) : s.OnDisk p moves text := by
  refine seen_of_mem_taken ?_ ?_ h
  · intro reading hmem
    rw [hs] at hmem
    contradiction
  · intro during hduring q text hq hload
    exact ⟨during, q, hduring, hq, hload⟩

end Unasked

theorem eq_of_length_le_one {α : Type} {as : List α} (h : as.length ≤ 1) :
    ∀ a ∈ as, ∀ b ∈ as, a = b := by
  match as, h with
  | [], _ => simp
  | [a], _ => simp

/-- Whatever the readers of a finder do and however the files change, the readers of a file are told
the same exactly when all that they took of it from the disk is the same. -/
theorem told_perform (f : Finder) (d : Disk) (moves : List Move) (p : Path) :
    Told { finder := f, disk := d } p moves where
  source _ h := source_of_unasked rfl h
  seen _ h := onDisk_of_mem_taken rfl h
  alike_iff := alike_iff_taken rfl
  alike_of_unraced h := (alike_iff_taken rfl).mpr (eq_of_length_le_one (length_taken_of_unraced h))
  alike_of_unchanged h := (alike_iff_taken rfl).mpr fun a ha b hb =>
    h a b (onDisk_of_mem_taken rfl ha) (onDisk_of_mem_taken rfl hb)
  settled before after text hm hsettled other ho := by
    rw [hm, perform_append] at ho
    exact told_of_settled hsettled ho

def racedPath : Path := ⟨"/a"⟩

def racedDisk (content : String) : Disk :=
  { root := .dir [("a", .file (Text.encode content))] }

/-- Two readers find the file lacking, and take it before and after it is changed. A third one asks
between the two, and a fourth one after them. -/
def race : List Move :=
  [.ask racedPath, .ask racedPath, .advance 0, .advance 1, .advance 0, .change (racedDisk "2"),
    .advance 1, .advance 0, .ask racedPath, .advance 2, .advance 1, .ask racedPath, .advance 3]

def racedFinder : Finder := { project := ⟨"/"⟩, found := [(⟨"/"⟩, [racedPath])] }

theorem toldOf_race : (SharedFinder.perform { finder := racedFinder, disk := racedDisk "1" }
    race).toldOf racedPath = [['1'], ['2'], ['1'], ['2']] := by
  cbv

/-- The readers of a race are told different texts, also those that do not fetch the file. -/
theorem not_alike_race : Finder.create (racedDisk "1") ⟨"/"⟩ {} = .ok racedFinder ∧
    ¬ (SharedFinder.perform { finder := racedFinder, disk := racedDisk "1" } race).Alike
      racedPath := by
  refine ⟨by cbv, fun h => ?_⟩
  rw [Alike, toldOf_race] at h
  have heq := h ['1'] (by simp) ['2'] (by simp)
  contradiction

end SharedFinder

end MetaLint
