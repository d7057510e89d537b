import LedgerNet.Proofs.Program.Running
import LedgerNet.Rehearsal.PlannedHost
import Mathlib.Data.List.Basic

/-!
# What is written can be read

A file that was written holds what was written, until it is written again.
That is said of files in one directory, which is how the files of a service
are written: a name in a directory that some names lead to holds some bytes
(`FileSystem.Stored`). Writing a file makes this true of it (`stored_of_write`)
and leaves it true of the other names in that directory (`Stored.write`); for
the place that is written was no directory before, so every way that led to
the directory still does (`walk_put`).

A path is put together from the directory and the name, and is taken apart
into the names along the one and then the other (`Path.names_join`). This
needs a name of its own right: not empty, without a slash, and neither of the
two names that go nowhere or up.
-/

namespace LedgerNet

/-! ## Paths -/

namespace Path

/-- **A name of its own**: no path, and not one that goes nowhere or up. -/
structure IsName (name : String) : Prop where
  ne_empty : name ≠ ""
  ne_here : name ≠ "."
  ne_above : name ≠ ".."
  no_slash : '/' ∉ name.toList

instance (name : String) : Decidable (IsName name) :=
  decidable_of_iff (name ≠ "" ∧ name ≠ "." ∧ name ≠ ".." ∧ '/' ∉ name.toList)
    ⟨fun h => ⟨h.1, h.2.1, h.2.2.1, h.2.2.2⟩, fun h => ⟨h.1, h.2, h.3, h.4⟩⟩

theorem parts_ne_nil (cs : List Char) : parts cs ≠ [] := by
  fun_cases parts cs <;> simp_all

/-- A slash parts a text in two. -/
theorem parts_append_slash (first second : List Char) :
    parts (first ++ '/' :: second) = parts first ++ parts second := by
  induction first with
  | nil => rfl
  | cons c cs ih =>
    by_cases hc : c = '/'
    · subst hc
      exact congrArg ([] :: ·) ih
    · obtain ⟨part, others, hparts⟩ := List.exists_cons_of_ne_nil (parts_ne_nil cs)
      rw [hparts] at ih
      simp [parts, ih, hparts]

theorem parts_of_no_slash {cs : List Char} (h : '/' ∉ cs) : parts cs = [cs] := by
  induction cs with
  | nil => rfl
  | cons c cs ih =>
    obtain ⟨hc, hcs⟩ := not_or.1 (mt List.mem_cons.2 h)
    simp [parts, ih hcs, Ne.symm hc]

/-- The names that some parts lead along. -/
def leading (parts : List (List Char)) : List String :=
  (parts.map String.ofList).filter fun name => name ≠ "" && name ≠ "."

theorem leading_append (before after : List (List Char)) :
    leading (before ++ after) = leading before ++ leading after := by
  unfold leading
  rw [List.map_append, List.filter_append]

namespace IsName

variable {name : String}

theorem leading_singleton (h : IsName name) : leading [name.toList] = [name] := by
  unfold leading
  simp [h.ne_empty, h.ne_here]

/-- **A name at the end of a path is its last part**, and the parts before it
lead where the directory does. -/
theorem parts_join (h : IsName name) (directory : String) :
    ∃ before, parts (join directory name).toList = before ++ [name.toList]
      ∧ leading before = names directory := by
  have hlast := parts_of_no_slash h.no_slash
  have hname : ∀ rest, name.toList ≠ '/' :: rest := fun rest heq =>
    h.no_slash (heq ▸ List.mem_cons_self)
  unfold join
  split
  · exact absurd ‹_› (hname _)
  · rename_i hempty _
    rw [List.getLast?_eq_none_iff] at hempty
    refine ⟨[], hlast, ?_⟩
    unfold names
    rw [hempty]
    rfl
  · rename_i last hend _
    obtain ⟨front, hfront⟩ := List.getLast?_eq_some_iff.1 hend
    split
    · rename_i hslash
      subst hslash
      refine ⟨parts front, ?_, ?_⟩
      · rw [String.toList_append, hfront, List.append_assoc, List.singleton_append,
          parts_append_slash, hlast]
      · show _ = leading (parts directory.toList)
        rw [hfront, parts_append_slash, leading_append]
        exact (List.append_nil _).symm
    · refine ⟨parts directory.toList, ?_, rfl⟩
      have hslash : "/".toList = ['/'] := rfl
      rw [String.toList_append, String.toList_append, hslash, List.append_assoc,
        List.singleton_append, parts_append_slash, hlast]

/-- **The names along a path** that ends in a name. -/
theorem names_join (h : IsName name) (directory : String) :
    names (join directory name) = names directory ++ [name] := by
  obtain ⟨before, hparts, hbefore⟩ := h.parts_join directory
  show leading (parts _) = _
  rw [hparts, leading_append, hbefore, h.leading_singleton]

/-- A path that ends in a name does not ask for a directory. -/
theorem asksForDirectory_join (h : IsName name) (directory : String) :
    asksForDirectory (join directory name) = false := by
  obtain ⟨before, hparts, -⟩ := h.parts_join directory
  have hne : ∀ {text : String}, name ≠ text → name.toList ≠ text.toList := fun hne heq =>
    hne (String.toList_inj.1 heq)
  have hempty := hne h.ne_empty
  have hhere := hne h.ne_here
  have habove := hne h.ne_above
  unfold asksForDirectory
  rw [hparts, List.getLast?_concat]
  simp_all

end IsName

end Path

/-! ## The tree -/

namespace FileSystem

variable {fs after : FileSystem} {place : List String}

/-- **What stands where** after something was put at a place. -/
theorem entry?_put (entry : FileEntry) (hplace : place ≠ []) (other : List String) :
    FileSystem.entry? (fs.put place entry) other
      = if other = place then some entry else fs.entry? other := by
  by_cases hroot : other = []
  · subst hroot
    rw [if_neg hplace.symm]
    rfl
  · have hsome : other.isEmpty = false := by simpa using hroot
    unfold entry?
    rw [hsome, if_neg Bool.false_ne_true, if_neg Bool.false_ne_true]
    unfold put
    split
    · rename_i hany
      have hplaces : (fun e : List String × FileEntry => e.1 == other)
          ∘ (fun e => if e.1 == place then (place, entry) else e) = (·.1 == other) := by
        funext e
        by_cases he : e.1 = place <;> simp [he]
      dsimp only
      rw [List.find?_map, hplaces]
      cases hfind : fs.entries.find? (·.1 == other) with
      | none =>
        have hne : other ≠ place := by
          rintro rfl
          obtain ⟨e, hmem, he⟩ := List.any_eq_true.1 hany
          exact List.find?_eq_none.1 hfind e hmem he
        rw [if_neg hne]
        rfl
      | some e =>
        have he : e.1 = other := by simpa using List.find?_some hfind
        by_cases hother : other = place <;> simp [he, hother]
    · rename_i hany
      dsimp only
      rw [List.find?_append]
      by_cases hother : other = place
      · subst hother
        have hnone : fs.entries.find? (·.1 == other) = none :=
          List.find?_eq_none.2 fun e hmem he => hany (List.any_eq_true.2 ⟨e, hmem, he⟩)
        simp [hnone]
      · simp [hother, Ne.symm hother]

/-- Names that lead to a place, one after the other. -/
theorem walk_append (first second : List String) :
    fs.walk place (first ++ second)
      = (fs.walk place first >>= fun there => fs.walk there second) := by
  induction first generalizing place with
  | nil => rfl
  | cons name rest ih =>
    simp only [List.cons_append, walk]
    split
    · split
      · exact ih
      · split
        · rfl
        · split
          · exact ih
          · rfl
    · rfl
    · rfl

/-- **One name of a way**: it is followed from a directory, up or to something
that stands there. -/
theorem walk_cons_eq_ok_iff {name : String} {rest there : List String} :
    fs.walk place (name :: rest) = .ok there ↔ fs.entry? place = some .directory
      ∧ (name = ".." ∧ fs.walk place.dropLast rest = .ok there
        ∨ name ≠ ".." ∧ name.utf8ByteSize ≤ longestName
          ∧ (fs.entry? (place ++ [name])).isSome = true
          ∧ fs.walk (place ++ [name]) rest = .ok there) := by
  rw [walk]
  cases fs.entry? place with
  | none => simp
  | some entry =>
    cases entry with
    | file contents => simp
    | directory =>
      by_cases habove : name = ".."
      · simp [habove]
      · by_cases hlong : longestName < name.utf8ByteSize
        · simp [habove, hlong, Nat.not_le.2 hlong]
        · cases fs.entry? (place ++ [name]) <;> simp [habove, hlong, Nat.not_lt.1 hlong]

/-- A way to a directory begins at one. -/
theorem directory_of_walk {names there : List String} (h : fs.walk place names = .ok there)
    (hthere : fs.entry? there = some .directory) : fs.entry? place = some .directory := by
  cases names with
  | nil =>
    obtain rfl := Except.ok.inj h
    exact hthere
  | cons name rest => exact (walk_cons_eq_ok_iff.1 h).1

/-- **A way to a directory stays a way** when something is put where no
directory was: it leads through directories only. -/
theorem walk_put {names there start : List String} (entry : FileEntry) (hplace : place ≠ [])
    (hfree : fs.entry? place ≠ some .directory) (hwalk : fs.walk start names = .ok there)
    (hthere : fs.entry? there = some .directory) :
    (fs.put place entry).walk start names = .ok there := by
  have hkeep : ∀ {other}, fs.entry? other = some .directory →
      FileSystem.entry? (fs.put place entry) other = some .directory := by
    intro other hother
    rw [entry?_put entry hplace, if_neg (by rintro rfl; exact hfree hother), hother]
  induction names generalizing start with
  | nil => exact hwalk
  | cons name rest ih =>
    obtain ⟨hstart, ⟨habove, hrest⟩ | ⟨habove, hshort, -, hrest⟩⟩ := walk_cons_eq_ok_iff.1 hwalk
    · exact walk_cons_eq_ok_iff.2 ⟨hkeep hstart, Or.inl ⟨habove, ih hrest⟩⟩
    · have hnext := hkeep (directory_of_walk hrest hthere)
      exact walk_cons_eq_ok_iff.2 ⟨hkeep hstart,
        Or.inr ⟨habove, hshort, by rw [hnext]; rfl, ih hrest⟩⟩

/-! ## Files in a directory -/

/-- **A file in a directory**: the names lead to the directory, and under a
name of its own the file stands there and holds some bytes. -/
structure Stored (fs : FileSystem) (directory : List String) (name : String)
    (contents : List UInt8) (place : List String) : Prop where
  leads : fs.walk [] directory = .ok place
  directory : fs.entry? place = some .directory
  short : name.utf8ByteSize ≤ longestName
  holds : fs.entry? (place ++ [name]) = some (.file contents)

variable {directory name : String} {contents : List UInt8}

/-- **What a write does that succeeds**: the path leads to a directory, no
directory had the name there, and now a file has it. -/
theorem write_join_eq_ok (hname : Path.IsName name)
    (h : fs.write (Path.join directory name) contents = .ok after) :
    ∃ place, '\x00' ∉ (Path.join directory name).toList
      ∧ fs.walk [] (Path.names directory) = .ok place
      ∧ fs.entry? place = some .directory
      ∧ name.utf8ByteSize ≤ longestName
      ∧ fs.entry? (place ++ [name]) ≠ some .directory
      ∧ after = fs.put (place ++ [name]) (.file contents) := by
  unfold write at h
  rw [hname.names_join, hname.asksForDirectory_join] at h
  simp only [List.getLast?_concat, List.dropLast_concat, bind, Except.bind, pure, Except.pure,
    throw, throwThe, MonadExceptOf.throw] at h
  split at h
  · cases h
  · rename_i hzero
    cases hwalk : fs.walk [] (Path.names directory) with
    | error cause => simp [hwalk] at h
    | ok place =>
      simp only [hwalk, if_neg hname.ne_above] at h
      split at h
      · rename_i hplace
        split at h
        · cases h
        · rename_i hlong
          refine ⟨place, by simpa using hzero, rfl, hplace, Nat.not_lt.1 hlong, ?_⟩
          cases hentry : fs.entry? (place ++ [name]) with
          | none => simp_all
          | some entry => cases entry <;> simp_all
      · cases h

/-- **A file that was written is there.** -/
theorem stored_of_write (hname : Path.IsName name)
    (h : fs.write (Path.join directory name) contents = .ok after) :
    ∃ place, after.Stored (Path.names directory) name contents place := by
  obtain ⟨place, -, hwalk, hplace, hshort, hfree, rfl⟩ := write_join_eq_ok hname h
  have hne : place ++ [name] ≠ [] := List.append_ne_nil_of_right_ne_nil _ (List.cons_ne_nil _ _)
  refine ⟨place, walk_put _ hne hfree hwalk hplace, ?_, hshort, ?_⟩
  · rw [entry?_put _ hne, if_neg (by simp), hplace]
  · rw [entry?_put _ hne, if_pos rfl]

/-- **Another file in the directory stays as it is.** -/
theorem Stored.write {other : String} {bytes : List UInt8} {place : List String}
    (hstored : fs.Stored (Path.names directory) other bytes place) (hname : Path.IsName name)
    (hother : other ≠ name) (h : fs.write (Path.join directory name) contents = .ok after) :
    after.Stored (Path.names directory) other bytes place := by
  obtain ⟨place', -, hwalk, hplace, -, hfree, rfl⟩ := write_join_eq_ok hname h
  obtain rfl : place = place' := Except.ok.inj (hstored.leads.symm.trans hwalk)
  have hne : place ++ [name] ≠ [] := List.append_ne_nil_of_right_ne_nil _ (List.cons_ne_nil _ _)
  refine ⟨walk_put _ hne hfree hwalk hplace, ?_, hstored.short, ?_⟩
  · rw [entry?_put _ hne, if_neg (by simp), hplace]
  · rw [entry?_put _ hne, if_neg, hstored.holds]
    intro heq
    exact hother (List.singleton_inj.1 (List.append_cancel_left heq))

/-- **A file that is there is read.** -/
theorem Stored.read {place : List String}
    (hstored : fs.Stored (Path.names directory) name contents place) (hname : Path.IsName name)
    (hzero : '\x00' ∉ (Path.join directory name).toList) :
    fs.read (Path.join directory name) = .ok contents := by
  have hne : Path.join directory name ≠ "" := by
    intro heq
    have hnames := hname.names_join directory
    rw [heq] at hnames
    exact absurd hnames.symm (List.append_ne_nil_of_right_ne_nil _ (List.cons_ne_nil _ _))
  have hwalk : fs.walk [] (Path.names (Path.join directory name)) = .ok (place ++ [name]) := by
    rw [hname.names_join, walk_append, hstored.leads]
    exact walk_cons_eq_ok_iff.2 ⟨hstored.directory, Or.inr ⟨hname.ne_above, hstored.short,
      by rw [hstored.holds]; rfl, rfl⟩⟩
  unfold FileSystem.read
  simp [hzero, hne, hwalk, hstored.holds, hname.asksForDirectory_join, bind, Except.bind, pure,
    Except.pure]

end FileSystem

/-! ## The files of a service -/

namespace Workspace

variable {directory : String} {host left : PlannedHost}

/-- Writing a file, as a step of a program. -/
theorem runOn_filing_write (purpose path contents : String) :
    (Host.filing purpose (Proc.ask (HostOp.write path contents) Proc.done)).runOn
        PlannedHost.answer host
      = match host.files.write path (Text.utf8Bytes contents) with
        | .ok files => (.ok (), { host with files })
        | .error cause => (Outcome.failed ⟨purpose, [cause.message]⟩, host) := by
  have hanswer : PlannedHost.answer (.write path contents) host
      = match host.files.write path (Text.utf8Bytes contents) with
        | .ok files => (.ok (), { host with files })
        | .error cause => (.error cause, host) := rfl
  have hrun : (Host.filing purpose (Proc.ask (HostOp.write path contents) Proc.done)).runOn
      PlannedHost.answer host
        = (((PlannedHost.answer (.write path contents) host).1.mapError fun cause =>
          (⟨purpose, [cause.message]⟩ : ServiceError)).mapError Failure.error,
            (PlannedHost.answer (.write path contents) host).2) := rfl
  rw [hrun, hanswer]
  cases host.files.write path (Text.utf8Bytes contents) <;> rfl

/-- **One file more**: it is written, and then the others are. -/
theorem runOn_writeFiles_cons {name contents : String} {rest : List (String × String)}
    (h : (writeFiles directory ((name, contents) :: rest)).runOn PlannedHost.answer host
      = (.ok (), left)) :
    ∃ files, host.files.write (Path.join directory name) (Text.utf8Bytes contents) = .ok files
      ∧ (writeFiles directory rest).runOn PlannedHost.answer { host with files }
        = (.ok (), left) := by
  unfold writeFiles at h
  rw [Attempt.runOn_bind, runOn_filing_write] at h
  cases hwrite : host.files.write (Path.join directory name) (Text.utf8Bytes contents) with
  | error cause =>
    rw [hwrite] at h
    cases h
  | ok files =>
    rw [hwrite] at h
    exact ⟨files, rfl, h⟩

/-- **Files with different names do not get in each other's way**, by induction
on them: each holds its contents in the end, and so does every other file that
was in the directory. -/
theorem stored_of_writeFiles {files : List (String × String)}
    (hnames : ∀ file ∈ files, Path.IsName file.1) (hnodup : (files.map Prod.fst).Nodup)
    (h : (writeFiles directory files).runOn PlannedHost.answer host = (.ok (), left)) :
    (∀ file ∈ files, '\x00' ∉ (Path.join directory file.1).toList
        ∧ ∃ place, left.files.Stored (Path.names directory) file.1 (Text.utf8Bytes file.2) place)
      ∧ ∀ other ∉ files.map Prod.fst, ∀ bytes place,
        host.files.Stored (Path.names directory) other bytes place →
          left.files.Stored (Path.names directory) other bytes place := by
  induction files generalizing host with
  | nil =>
    obtain rfl : host = left := congrArg Prod.snd h
    exact ⟨List.forall_mem_nil _, fun _ _ _ _ hstored => hstored⟩
  | cons file rest ih =>
    obtain ⟨name, contents⟩ := file
    obtain ⟨hname, hrest⟩ := List.forall_mem_cons.1 hnames
    obtain ⟨hfresh, hnodup⟩ := List.nodup_cons.1 hnodup
    obtain ⟨files, hwrite, hrun⟩ := runOn_writeFiles_cons h
    obtain ⟨hstored, hkept⟩ := ih hrest hnodup hrun
    refine ⟨List.forall_mem_cons.2 ⟨?_, hstored⟩, ?_⟩
    · obtain ⟨-, hzero, -⟩ := FileSystem.write_join_eq_ok hname hwrite
      obtain ⟨place, hplace⟩ := FileSystem.stored_of_write hname hwrite
      exact ⟨hzero, place, hkept name hfresh _ place hplace⟩
    · intro other hother bytes place hplace
      obtain ⟨hne, hother⟩ := not_or.1 (mt List.mem_cons.2 hother)
      exact hkept other hother bytes place (hplace.write hname hne hwrite)

/-- **The files of a service can be read** where they were written. -/
theorem read_of_materialise {files : List (String × String)}
    (hnames : ∀ file ∈ files, Path.IsName file.1) (hnodup : (files.map Prod.fst).Nodup)
    (h : (materialise directory files).runOn PlannedHost.answer host = (.ok (), left)) :
    ∀ file ∈ files, left.files.read (Path.join directory file.1)
      = .ok (Text.utf8Bytes file.2) := by
  unfold materialise at h
  rw [Attempt.runOn_bind] at h
  split at h
  · intro file hfile
    obtain ⟨hzero, place, hplace⟩ := (stored_of_writeFiles hnames hnodup h).1 file hfile
    exact hplace.read (hnames file hfile) hzero
  · cases h

end Workspace

end LedgerNet
