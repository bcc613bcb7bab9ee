import FillScript.Files.Tree
import Mathlib.Tactic.SplitIfs

/-!
# Files are read as they were written

A path is followed through directories, so it leads to the same place in other files that have them
all (`locate_of_dirs`). A file is put where there was no directory, and with that, what was written
under a path is what is read under it (`read_of_write`).
-/

namespace FillScript

namespace FileTree

variable {files files' : FileTree} {loc : Location}

/-! ## Putting something in a place -/

theorem find?_putEntry (loc : Location) (node : Node) (entries : List (Location × Node))
    (other : Location) :
    (putEntry loc node entries).find? (·.1 == other) =
      if other = loc then some (loc, node) else entries.find? (·.1 == other) := by
  induction entries with
  | nil =>
    by_cases heq : other = loc
    · simp [putEntry, heq]
    · simp [putEntry, heq, Ne.symm heq]
  | cons entry rest ih =>
    obtain ⟨l, old⟩ := entry
    rw [putEntry]
    by_cases hl : l = loc
    · rw [if_pos (beq_iff_eq.2 hl), hl]
      by_cases heq : other = loc
      · simp [heq]
      · simp [heq, Ne.symm heq]
    · rw [if_neg (by simpa using hl), List.find?_cons, ih, List.find?_cons]
      by_cases heq : other = loc
      · have hne : (l == loc) = false := by simpa using hl
        simp [heq, hne]
      · simp [heq]

/-- What is found after something was put in a place. -/
theorem node?_put (files : FileTree) {loc : Location} (hloc : loc.isGiven = false) (node : Node)
    (other : Location) :
    (files.put loc node).node? other = if other = loc then some node else files.node? other := by
  unfold node? put
  rw [find?_putEntry]
  by_cases heq : other = loc
  · simp [heq, hloc]
  · simp [heq]

/-- What is found after what was in a place is gone. -/
theorem node?_remove (files : FileTree) {loc : Location} (hloc : loc.isGiven = false)
    (other : Location) :
    (files.remove loc).node? other = if other = loc then none else files.node? other := by
  unfold node? remove
  rw [List.find?_filter]
  by_cases heq : other = loc
  · subst heq
    simp [hloc]
  · have hkept : (fun entry : Location × Node => decide (entry.1 != loc ∧ (entry.1 == other) = true))
        = fun entry => entry.1 == other := by
      funext entry
      by_cases hentry : entry.1 = other
      · simp [hentry, heq]
      · simp [hentry]
    rw [if_neg heq, hkept]

theorem isGiven_eq_false (hloc : files.node? loc ≠ some .dir) : loc.isGiven = false := by
  cases hgiven : loc.isGiven with
  | false => rfl
  | true => exact absurd (by rw [node?, if_pos hgiven]) hloc

/-! ## Following paths -/

/-- A path is followed through directories. Where there are at least the same ones, it leads to the
same place. -/
theorem walk_of_dirs (hdirs : ∀ loc, files.node? loc = some .dir → files'.node? loc = some .dir)
    {segments : List String} {start target : Location}
    (hwalk : files.walk segments start = .ok target) : files'.walk segments start = .ok target := by
  induction segments generalizing start with
  | nil => exact hwalk
  | cons segment rest ih =>
    have hdir : files.node? start = some .dir := by
      unfold walk at hwalk
      split at hwalk
      · contradiction
      · contradiction
      · assumption
    simp only [walk, hdir] at hwalk
    simp only [walk, hdirs start hdir]
    split_ifs at hwalk ⊢
    · exact ih hwalk
    · exact ih hwalk
    · exact ih hwalk

theorem refused?_eq_none_iff {path : Path} :
    refused? path = none ↔
      '\x00' ∉ path.text.toList ∧ path.text.utf8ByteSize < 4096 ∧ path.isEmpty = false := by
  unfold refused?
  simp only [String.contains_char_eq, decide_eq_true_eq]
  split_ifs with hnul hlength hempty
  · simp [hnul]
  · simp [Nat.not_lt.2 hlength]
  · simp [hempty]
  · simp [hnul, hempty, Nat.not_le.1 hlength]

theorem locate_eq_ok_iff {path : Path} {target : Location} :
    files.locate path = .ok target ↔
      ('\x00' ∉ path.text.toList ∧ path.text.utf8ByteSize < 4096 ∧ path.isEmpty = false) ∧
        files.walk path.segments (startOf path) = .ok target := by
  rw [← refused?_eq_none_iff, locate]
  cases refused? path with
  | some e => simp
  | none => simp

theorem locate_of_dirs (hdirs : ∀ loc, files.node? loc = some .dir → files'.node? loc = some .dir)
    {path : Path} {target : Location} (hlocate : files.locate path = .ok target) :
    files'.locate path = .ok target := by
  obtain ⟨hpath, hwalk⟩ := locate_eq_ok_iff.1 hlocate
  exact locate_eq_ok_iff.2 ⟨hpath, walk_of_dirs hdirs hwalk⟩

/-- A path that leads somewhere leads there still, after something was put in a place where there is
no directory. -/
theorem locate_put (hloc : files.node? loc ≠ some .dir) (node : Node) {path : Path}
    {target : Location} (hlocate : files.locate path = .ok target) :
    (files.put loc node).locate path = .ok target := by
  refine locate_of_dirs (fun other hdir => ?_) hlocate
  have hne : other ≠ loc := fun heq => hloc (heq ▸ hdir)
  rw [node?_put files (isGiven_eq_false hloc), if_neg hne, hdir]

/-! ## Writing -/

/-- The place for a file is the one that its path leads to, unless a slash ends the path. -/
theorem writeLocation_eq_ok_iff {path : Path} :
    files.writeLocation path = .ok loc ↔
      path.endsInSlash = false ∧ files.locate path = .ok loc := by
  unfold writeLocation locate
  cases refused? path with
  | some e => simp
  | none =>
    cases path.endsInSlash with
    | true =>
      dsimp only
      rw [if_pos rfl]
      split <;> simp
    | false => simp

/-- A file is written where its path leads to a place without a directory, and put there. -/
theorem write_eq_ok_iff {path : Path} {contents : Contents} :
    files.write path contents = .ok files' ↔
      path.endsInSlash = false ∧ ∃ loc, files.locate path = .ok loc ∧ files.node? loc ≠ some .dir ∧
        files' = files.put loc (.file contents) := by
  unfold write
  constructor
  · intro hwrite
    split at hwrite
    · contradiction
    · next loc hloc =>
      obtain ⟨hslash, hlocate⟩ := writeLocation_eq_ok_iff.1 hloc
      refine ⟨hslash, loc, hlocate, ?_⟩
      split at hwrite
      · contradiction
      · next hdir => exact ⟨hdir, (Except.ok.inj hwrite).symm⟩
  · rintro ⟨hslash, loc, hlocate, hdir, rfl⟩
    rw [writeLocation_eq_ok_iff.2 ⟨hslash, hlocate⟩]
    dsimp only
    split
    · contradiction
    · rfl

/-! ## Reading what is there -/

theorem read_eq_ok_iff {path : Path} {contents : Contents} :
    files.read path = .ok contents ↔ files.resolve path = .ok (.file contents) := by
  unfold read
  cases files.resolve path with
  | error e => simp
  | ok node => cases node <;> simp

theorem read_of_node? {path : Path} (hlocate : files.locate path = .ok loc) {contents : Contents}
    (hnode : files.node? loc = some (.file contents)) : files.read path = .ok contents := by
  rw [read_eq_ok_iff, resolve, hlocate]
  simp only [hnode]

theorem isFile_of_read {path : Path} {contents : Contents}
    (hread : files.read path = .ok contents) : files.isFile path = true := by
  rw [isFile, read_eq_ok_iff.1 hread]

theorem exists?_of_read {path : Path} {contents : Contents}
    (hread : files.read path = .ok contents) : files.exists? path = true := by
  rw [exists?, read_eq_ok_iff.1 hread]

/-- What is written under a path is read under it. -/
theorem read_of_write {path : Path} {contents : Contents}
    (hwrite : files.write path contents = .ok files') : files'.read path = .ok contents := by
  obtain ⟨-, loc, hlocate, hdir, rfl⟩ := write_eq_ok_iff.1 hwrite
  refine read_of_node? (locate_put hdir _ hlocate) ?_
  rw [node?_put files (isGiven_eq_false hdir), if_pos rfl]

/-! ## Moving -/

/-- A file is moved by writing it anew where its own place is empty. -/
theorem move_eq_ok_iff {source target : Path} :
    files.move source target = .ok files' ↔
      ∃ loc contents, files.locate source = .ok loc ∧ files.read source = .ok contents ∧
        (files.remove loc).write target contents = .ok files' := by
  unfold move
  cases files.locate source with
  | error e => simp
  | ok loc => cases files.read source <;> simp

theorem node?_remove_put (files : FileTree) {loc : Location} (hloc : loc.isGiven = false)
    (node : Node) (other : Location) :
    ((files.put loc node).remove loc).node? other =
      if other = loc then none else files.node? other := by
  rw [node?_remove _ hloc]
  by_cases heq : other = loc
  · rw [if_pos heq, if_pos heq]
  · rw [if_neg heq, if_neg heq, node?_put files hloc, if_neg heq]

section Draft

variable {draft path : Path} {contents : Contents} {drafted : FileTree}

/-- What is written under a path and moved from there to another is found under that one, and what
was at the first place is gone. -/
theorem node?_move_write (hwrite : files.write draft contents = .ok drafted)
    (hmove : drafted.move draft path = .ok files') :
    ∃ own beside, files.locate path = .ok own ∧ files.locate draft = .ok beside ∧
      ∀ loc, files'.node? loc = if loc = own then some (.file contents)
        else if loc = beside then none else files.node? loc := by
  have hread := read_of_write hwrite
  obtain ⟨-, beside, hbeside, hdir, rfl⟩ := write_eq_ok_iff.1 hwrite
  obtain ⟨source, moved, hsource, hmoved, hwrite'⟩ := move_eq_ok_iff.1 hmove
  -- the draft is taken from where it was put
  obtain rfl : beside = source := by
    rw [locate_put hdir _ hbeside] at hsource
    exact Except.ok.inj hsource
  obtain rfl : contents = moved := by
    rw [hread] at hmoved
    exact Except.ok.inj hmoved
  have hremoved := node?_remove_put files (isGiven_eq_false hdir) (.file contents)
  obtain ⟨-, own, hown, hdir', rfl⟩ := write_eq_ok_iff.1 hwrite'
  refine ⟨own, beside, locate_of_dirs (fun loc hloc => ?_) hown, hbeside, fun loc => ?_⟩
  · rw [hremoved] at hloc
    by_cases heq : loc = beside
    · simp [heq] at hloc
    · rwa [if_neg heq] at hloc
  · rw [node?_put _ (isGiven_eq_false hdir'), hremoved]

/-- A file can be written under a path and moved from there to another if both lead to places
without a directory. -/
theorem exists_move_write {own beside : Location} (hdraft : draft.endsInSlash = false)
    (hbeside : files.locate draft = .ok beside) (hdir : files.node? beside ≠ some .dir)
    (hpath : path.endsInSlash = false) (hown : files.locate path = .ok own)
    (hdir' : files.node? own ≠ some .dir) (contents : Contents) :
    ∃ drafted files', files.write draft contents = .ok drafted ∧
      drafted.move draft path = .ok files' := by
  have hwrite : files.write draft contents = .ok (files.put beside (.file contents)) :=
    write_eq_ok_iff.2 ⟨hdraft, beside, hbeside, hdir, rfl⟩
  have hremoved := node?_remove_put files (isGiven_eq_false hdir) (.file contents)
  refine ⟨_, _, hwrite, move_eq_ok_iff.2 ⟨beside, contents, locate_put hdir _ hbeside,
    read_of_write hwrite, write_eq_ok_iff.2 ⟨hpath, own, ?_, ?_, rfl⟩⟩⟩
  · refine locate_of_dirs (fun loc hloc => ?_) hown
    have hne : loc ≠ beside := fun heq => hdir (heq ▸ hloc)
    rw [hremoved, if_neg hne, hloc]
  · rw [hremoved]
    split
    · simp
    · exact hdir'

end Draft

end FileTree

end FillScript
