import Mathlib.Data.List.DropRight
import Mathlib.Data.List.Nodup
import Mathlib.Data.List.Perm.Basic
import SecureGuard.Astore.Downloader

/-! # Split packages

An archive with the splits of a package is unpacked into a directory, each split under the last
part of its name, and what then is found in the directory is handed to the installer. -/

namespace SecureGuard.Astore

/-! ## Archives and directories -/

structure ZipEntry where
  name : List Char
  content : Bytes
deriving DecidableEq, Repr

namespace ZipEntry

def isDirectory (entry : ZipEntry) : Bool := entry.name.getLast? == some '/'

/-- The entry is an APK, whatever the case of its extension. -/
def isApk (entry : ZipEntry) : Bool :=
  !entry.isDirectory && ".apk".toList.isSuffixOf (entry.name.map foldCase)

/-- `name.substringAfterLast('/')`. -/
def baseName (entry : ZipEntry) : List Char := entry.name.rtakeWhile fun c => c != '/'

/-- The entry as a file, or as a part of the session. -/
def file (entry : ZipEntry) : List Char × Bytes := (entry.baseName, entry.content)

end ZipEntry

/-- The files of a directory; the order in which they are listed says nothing. -/
structure Directory where
  files : List (List Char × Bytes)
  nodup : (files.map Prod.fst).Nodup

namespace Directory

def names (d : Directory) : List (List Char) := d.files.map Prod.fst

theorem nodup_write (d : Directory) (name : List Char) (content : Bytes) :
    ((d.files.filter (fun f => f.1 ≠ name) ++ [(name, content)]).map Prod.fst).Nodup := by
  rw [List.map_append, List.nodup_append]
  refine ⟨d.nodup.sublist (List.filter_sublist.map Prod.fst), List.nodup_singleton name, ?_⟩
  intro n hn m hm
  obtain ⟨f, hf, rfl⟩ := List.mem_map.mp hn
  obtain rfl := List.mem_singleton.mp hm
  simpa using (List.mem_filter.mp hf).2

/-- A file of the same name is replaced. -/
def write (d : Directory) (name : List Char) (content : Bytes) : Directory :=
  ⟨d.files.filter (fun f => f.1 ≠ name) ++ [(name, content)], d.nodup_write name content⟩

end Directory

/-! ## Installing -/

/-- Every entry is written to its file. `none` where a file cannot be opened, for which the name
may be too long. -/
def extract (opens : List Char → Bool) : Directory → List ZipEntry → Option Directory
  | extractDir, [] => some extractDir
  | extractDir, entry :: entries =>
    if opens entry.baseName then
      extract opens (extractDir.write entry.baseName entry.content) entries
    else none

/-- The files of the directory that are taken for APKs. -/
def apkFiles (extractDir : Directory) : List (List Char × Bytes) :=
  extractDir.files.filter fun f => ".apk".toList.isSuffixOf f.1

/-- `installXapkSilently`: what the session is given, `none` where an exception is thrown before
there is one. The directory may hold files of an installation that was killed. -/
def installXapkSilently (opens : List Char → Bool) (extractDir : Directory)
    (entries : List ZipEntry) : Option (List (List Char × Bytes)) :=
  (extract opens extractDir (entries.filter (·.isApk))).bind fun extractDir =>
    if apkFiles extractDir = [] then none else some (apkFiles extractDir)

/-! ## What is installed -/

/-- The session is given every APK of the archive once, with its own bytes, and nothing else. -/
def GivenExactly (given : Option (List (List Char × Bytes))) (entries : List ZipEntry) : Prop :=
  (given.getD []).Perm ((entries.filter (·.isApk)).map (·.file))

/-- The APKs have different names without their paths, which end in `.apk` in small letters and
can be opened, and no other file of this ending is in the directory. -/
structure Separate (opens : List Char → Bool) (extractDir : Directory) (apks : List ZipEntry) :
    Prop where
  nodup : (apks.map (·.baseName)).Nodup
  opened : ∀ apk ∈ apks, opens apk.baseName = true
  lower : ∀ apk ∈ apks, ".apk".toList.isSuffixOf apk.baseName = true
  clean : ∀ name ∈ extractDir.names, ".apk".toList.isSuffixOf name = true →
    name ∈ apks.map (·.baseName)

variable {opens : List Char → Bool} {d d' : Directory} {apks : List ZipEntry}

theorem opens_of_extract (h : extract opens d apks = some d') :
    ∀ apk ∈ apks, opens apk.baseName = true := by
  induction apks generalizing d with
  | nil => nofun
  | cons apk apks ih =>
    rw [extract] at h
    split at h
    · next hopens => exact List.forall_mem_cons.mpr ⟨hopens, ih h⟩
    · cases h

theorem exists_extract (d : Directory) (h : ∀ apk ∈ apks, opens apk.baseName = true) :
    ∃ d', extract opens d apks = some d' := by
  induction apks generalizing d with
  | nil => exact ⟨d, rfl⟩
  | cons apk apks ih =>
    obtain ⟨hopens, hrest⟩ := List.forall_mem_cons.mp h
    obtain ⟨d', hd'⟩ := ih (d.write apk.baseName apk.content) hrest
    exact ⟨d', by rw [extract, if_pos hopens, hd']⟩

/-- A file that was there before stays, if no entry has its name. -/
theorem mem_of_extract (h : extract opens d apks = some d') {f : List Char × Bytes}
    (hf : f ∈ d.files) (hname : f.1 ∉ apks.map (·.baseName)) : f ∈ d'.files := by
  induction apks generalizing d with
  | nil =>
    obtain rfl := Option.some.inj h
    exact hf
  | cons apk apks ih =>
    rw [List.map_cons, List.mem_cons, not_or] at hname
    rw [extract] at h
    split at h
    · refine ih h (List.mem_append_left _ (List.mem_filter.mpr ⟨hf, ?_⟩)) hname.2
      simpa using hname.1
    · cases h

/-- Where the names differ, every entry has its file beside the files of other names. -/
theorem extract_files (hnodup : (apks.map (·.baseName)).Nodup)
    (h : extract opens d apks = some d') :
    d'.files = d.files.filter (fun f => f.1 ∉ apks.map (·.baseName)) ++ apks.map (·.file) := by
  induction apks generalizing d with
  | nil =>
    obtain rfl := Option.some.inj h
    simp
  | cons apk apks ih =>
    rw [List.map_cons, List.nodup_cons] at hnodup
    rw [extract] at h
    split at h
    · have hkept : ((d.write apk.baseName apk.content).files.filter
          fun f => f.1 ∉ apks.map (·.baseName)) =
          d.files.filter (fun f => f.1 ∉ (apk :: apks).map (·.baseName)) ++ [apk.file] := by
        rw [Directory.write, List.filter_append, List.filter_filter, ZipEntry.file]
        congr 1
        · refine List.filter_congr fun f _ => ?_
          simp only [List.map_cons, List.mem_cons, not_or, Bool.decide_and, Bool.and_comm]
        · exact List.filter_eq_self.mpr (by simpa using hnodup.1)
      rw [ih hnodup.2 h, hkept, List.append_assoc]
      rfl
    · cases h

/-- What the session is given, where all files can be opened. -/
theorem getD_installXapkSilently {entries : List ZipEntry}
    (h : extract opens d (entries.filter (·.isApk)) = some d') :
    (installXapkSilently opens d entries).getD [] = apkFiles d' := by
  rw [installXapkSilently, h, Option.bind_some]
  split
  · next hnil => rw [hnil, Option.getD_none]
  · rfl

theorem apkFiles_nodup (d : Directory) : ((apkFiles d).map Prod.fst).Nodup :=
  d.nodup.sublist (List.filter_sublist.map Prod.fst)

theorem map_fst_file (apks : List ZipEntry) :
    (apks.map (·.file)).map Prod.fst = apks.map (·.baseName) := by
  rw [List.map_map]
  rfl

/-- Separate splits are what is found in the directory. -/
theorem apkFiles_of_separate (h : Separate opens d apks) (he : extract opens d apks = some d') :
    apkFiles d' = apks.map (·.file) := by
  rw [apkFiles, extract_files h.nodup he, List.filter_append, List.filter_filter]
  have hold : d.files.filter (fun f => ".apk".toList.isSuffixOf f.1 &&
      decide (f.1 ∉ apks.map (·.baseName))) = [] := by
    rw [List.filter_eq_nil_iff]
    intro f hf hboth
    rw [Bool.and_eq_true, decide_eq_true_eq] at hboth
    exact hboth.2 (h.clean f.1 (List.mem_map_of_mem hf) hboth.1)
  rw [hold, List.nil_append, List.filter_eq_self]
  intro f hf
  obtain ⟨apk, hapk, rfl⟩ := List.mem_map.mp hf
  exact h.lower apk hapk

/-- Where the session is given the splits, they are separate. -/
theorem separate_of_perm (he : extract opens d apks = some d')
    (h : (apkFiles d').Perm (apks.map (·.file))) : Separate opens d apks := by
  have hnames : ((apkFiles d').map Prod.fst).Perm (apks.map (·.baseName)) := by
    rw [← map_fst_file]
    exact h.map Prod.fst
  refine ⟨hnames.nodup_iff.mp (apkFiles_nodup d'), opens_of_extract he, fun apk hapk => ?_,
    fun name hname hlower => ?_⟩
  · exact (List.mem_filter.mp (h.mem_iff.mpr (List.mem_map_of_mem hapk))).2
  · by_contra hnew
    obtain ⟨f, hf, rfl⟩ := List.mem_map.mp hname
    have hmem : f ∈ apkFiles d' := List.mem_filter.mpr ⟨mem_of_extract he hf hnew, hlower⟩
    exact hnew (hnames.mem_iff.mp (List.mem_map_of_mem hmem))

/-- **The splits are all installed, and nothing else,** exactly if they are separate. -/
theorem installXapkSilently_exact_iff (opens : List Char → Bool) (extractDir : Directory)
    (entries : List ZipEntry) :
    GivenExactly (installXapkSilently opens extractDir entries) entries ↔
      Separate opens extractDir (entries.filter (·.isApk)) := by
  rw [GivenExactly]
  by_cases hopens : ∀ apk ∈ entries.filter (·.isApk), opens apk.baseName = true
  · obtain ⟨d', he⟩ := exists_extract extractDir hopens
    rw [getD_installXapkSilently he]
    exact ⟨separate_of_perm he, fun h => by rw [apkFiles_of_separate h he]⟩
  · refine iff_of_false (fun h => hopens ?_) fun h => hopens h.opened
    have hnone : extract opens extractDir (entries.filter (·.isApk)) = none :=
      Option.eq_none_iff_forall_ne_some.mpr fun d' he => hopens (opens_of_extract he)
    rw [installXapkSilently, hnone] at h
    rw [List.map_eq_nil_iff.mp h.nil_eq.symm]
    nofun

/-- A split with the extension in capitals is left out, and of two splits with the same name
without their paths one is lost. -/
theorem splits_lost :
    ¬GivenExactly (installXapkSilently (fun _ => true) ⟨[], List.nodup_nil⟩
        [⟨"base.apk".toList, [1]⟩, ⟨"split.APK".toList, [2]⟩])
      [⟨"base.apk".toList, [1]⟩, ⟨"split.APK".toList, [2]⟩] ∧
    ¬GivenExactly (installXapkSilently (fun _ => true) ⟨[], List.nodup_nil⟩
        [⟨"arm64/base.apk".toList, [1]⟩, ⟨"x86/base.apk".toList, [2]⟩])
      [⟨"arm64/base.apk".toList, [1]⟩, ⟨"x86/base.apk".toList, [2]⟩] := by
  unfold GivenExactly
  decide +kernel

end SecureGuard.Astore
