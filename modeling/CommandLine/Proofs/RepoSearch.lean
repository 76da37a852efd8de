import CommandLine.Main

/-!
# Finding the repository configuration

The repository configuration is looked for in the start directory and then in each directory
above it, up to the root: the chain `Shell.ancestors`, nearest first, which is also the chain
whose paths a run reads from the disk before it starts. In each directory the file is looked
for before the markers, so a repository root that holds a configuration file has it found.

The search stops at the first directory of the chain that holds a configuration file or a
repository marker. It answers with that directory's file when it holds one, and with nothing
when the directory only marks a repository root, or when no directory stops it.

The walk is given one step of fuel for each directory of the chain, and that is always enough:
`findRepoConfig_eq_find?` states the search as a `find?` over the whole chain, with no fuel left
in it.

From it, `nearest_repo_config_found`: the nearest configuration file is found unless a
repository root comes first, and nothing above the root is ever used.
-/

namespace CommandLine

namespace Disk

def holdsConfig (disk : Disk) (dir : DiskPath) : Bool :=
  (disk.file? (dir ++ [repoConfigName])).isSome

def holdsMarker (disk : Disk) (dir : DiskPath) : Bool :=
  repoMarkers.any fun m => disk.present (dir ++ [m])

/-- Whether the search stops at a directory: it holds a configuration file or a marker. -/
def stopsSearch (disk : Disk) (dir : DiskPath) : Bool :=
  disk.holdsConfig dir || disk.holdsMarker dir

def configIn (disk : Disk) (dir : DiskPath) : Option DiskPath :=
  if disk.holdsConfig dir then some (dir ++ [repoConfigName]) else none

end Disk

/-! ## The chain of directories -/

namespace Shell

theorem ancestors_nil : ancestors [] = [[]] := rfl

/-- The chain of a directory other than the root is the directory, then the chain of its
parent. -/
theorem ancestors_of_ne_nil {dir : DiskPath} (h : dir ≠ []) :
    ancestors dir = dir :: ancestors dir.parent := by
  obtain ⟨n, hn⟩ : ∃ n, dir.length = n + 1 :=
    Nat.exists_eq_succ_of_ne_zero (by simpa using h)
  have hparent : dir.parent.length = n := by simp [DiskPath.parent, hn]
  unfold ancestors
  rw [hn, hparent, List.range_succ_eq_map, List.map_cons, List.map_map, Nat.sub_zero,
    ← hn, List.take_length]
  congr 1
  refine List.map_congr_left fun i hi => ?_
  -- the parent agrees with the directory on every prefix short enough to be its own
  have hi : i < dir.length := List.mem_range.mp hi
  simp only [Function.comp, DiskPath.parent, List.dropLast_eq_take, List.take_take, hn]
  congr 1
  omega

end Shell

/-! ## The walk -/

theorem findRepoConfig.go_succ (disk : Disk) (fuel : Nat) (dir : DiskPath) :
    findRepoConfig.go disk (fuel + 1) dir =
      if disk.holdsConfig dir then some (dir ++ [repoConfigName])
      else if disk.holdsMarker dir then none
      else if dir.isEmpty then none
      else findRepoConfig.go disk fuel dir.parent := rfl

/-- With a step of fuel for each directory of the chain, the walk is the first stop along the
chain, read by `configIn`. The induction is on the fuel; each step either stops at the
directory or moves to its parent, whose chain is the rest. -/
theorem findRepoConfig.go_eq_find? (disk : Disk) :
    ∀ (fuel : Nat) (dir : DiskPath), dir.length < fuel →
      findRepoConfig.go disk fuel dir =
        ((Shell.ancestors dir).find? disk.stopsSearch).bind disk.configIn
  | 0, _, h => absurd h (Nat.not_lt_zero _)
  | fuel + 1, dir, h => by
    rw [findRepoConfig.go_succ]
    by_cases hstop : disk.stopsSearch dir = true
    · -- the directory itself stops the search
      have hfind : (Shell.ancestors dir).find? disk.stopsSearch = some dir :=
        List.find?_eq_some_iff_append.mpr ⟨hstop, by
          by_cases hroot : dir = []
          · exact ⟨[], [], by simp [hroot, Shell.ancestors_nil], by simp⟩
          · exact ⟨[], _, Shell.ancestors_of_ne_nil hroot, by simp⟩⟩
      rw [hfind, Option.bind_some, Disk.configIn]
      by_cases hconfig : disk.holdsConfig dir = true
      · simp [hconfig]
      · have hmarker : disk.holdsMarker dir = true := by
          simpa [Disk.stopsSearch, hconfig] using hstop
        simp [hconfig, hmarker]
    · have hconfig : disk.holdsConfig dir = false := by
        simp_all [Disk.stopsSearch]
      have hmarker : disk.holdsMarker dir = false := by
        simp_all [Disk.stopsSearch]
      simp only [hconfig, hmarker, Bool.false_eq_true, if_false]
      by_cases hroot : dir = []
      · subst hroot
        simp [Shell.ancestors_nil, hstop]
      · have hlen : dir.parent.length < fuel := by
          have : dir.length ≠ 0 := by simpa using hroot
          simp only [DiskPath.parent, List.length_dropLast]
          omega
        rw [if_neg (by simpa using hroot), findRepoConfig.go_eq_find? disk fuel _ hlen,
          Shell.ancestors_of_ne_nil hroot, List.find?_cons_of_neg hstop]

theorem findRepoConfig_eq_find? (disk : Disk) (start : DiskPath) :
    findRepoConfig disk start =
      ((Shell.ancestors start).find? disk.stopsSearch).bind disk.configIn :=
  findRepoConfig.go_eq_find? disk _ start (Nat.lt_succ_self _)

/-! ## The nearest configuration file -/

/-- The repository configuration found from a start directory is the file of the first
directory, walking up from the start to the root, that holds a configuration file, when no
directory before it holds a repository marker. The search finds nothing exactly when no
directory of the chain holds a configuration file, or when the first directory that holds a
file or a marker holds only a marker. -/
theorem nearest_repo_config_found (disk : Disk) (start : DiskPath) :
    (∀ path, findRepoConfig disk start = some path ↔
      ∃ nearer dir farther, Shell.ancestors start = nearer ++ dir :: farther ∧
        (∀ d ∈ nearer, disk.holdsConfig d = false ∧ disk.holdsMarker d = false) ∧
        disk.holdsConfig dir = true ∧ path = dir ++ [repoConfigName]) ∧
    (findRepoConfig disk start = none ↔
      (∀ dir ∈ Shell.ancestors start, disk.holdsConfig dir = false) ∨
      ∃ nearer dir farther, Shell.ancestors start = nearer ++ dir :: farther ∧
        (∀ d ∈ nearer, disk.holdsConfig d = false ∧ disk.holdsMarker d = false) ∧
        disk.holdsMarker dir = true ∧ disk.holdsConfig dir = false) := by
  -- a directory that does not stop the search holds neither a file nor a marker
  have hpassed : ∀ d, (!disk.stopsSearch d) = true ↔
      disk.holdsConfig d = false ∧ disk.holdsMarker d = false := by
    intro d
    simp [Disk.stopsSearch]
  rw [findRepoConfig_eq_find?]
  refine ⟨fun path => ?_, ?_⟩
  · rw [Option.bind_eq_some_iff]
    constructor
    · rintro ⟨dir, hfind, hpick⟩
      obtain ⟨-, nearer, farther, hsplit, hnearer⟩ := List.find?_eq_some_iff_append.mp hfind
      have hconfig : disk.holdsConfig dir = true := by
        cases h : disk.holdsConfig dir
        · simp [Disk.configIn, h] at hpick
        · rfl
      refine ⟨nearer, dir, farther, hsplit, fun d hd => (hpassed d).mp (hnearer d hd), hconfig, ?_⟩
      simpa [Disk.configIn, hconfig, eq_comm] using hpick
    · rintro ⟨nearer, dir, farther, hsplit, hnearer, hconfig, rfl⟩
      refine ⟨dir, List.find?_eq_some_iff_append.mpr ⟨by simp [Disk.stopsSearch, hconfig],
        nearer, farther, hsplit, fun d hd => (hpassed d).mpr (hnearer d hd)⟩, ?_⟩
      simp [Disk.configIn, hconfig]
  · constructor
    · intro hnone
      cases hfind : (Shell.ancestors start).find? disk.stopsSearch with
      | none =>
        -- nothing stops the search, so no directory holds a file
        left
        intro dir hdir
        have := List.find?_eq_none.mp hfind dir hdir
        simp_all [Disk.stopsSearch]
      | some dir =>
        right
        obtain ⟨hstop, nearer, farther, hsplit, hnearer⟩ := List.find?_eq_some_iff_append.mp hfind
        have hconfig : disk.holdsConfig dir = false := by
          simpa [hfind, Disk.configIn] using hnone
        refine ⟨nearer, dir, farther, hsplit, fun d hd => (hpassed d).mp (hnearer d hd), ?_,
          hconfig⟩
        simpa [Disk.stopsSearch, hconfig] using hstop
    · rintro (hnone | ⟨nearer, dir, farther, hsplit, hnearer, hmarker, hconfig⟩)
      · -- wherever the search stops, that directory holds no file
        rw [Option.bind_eq_none_iff]
        intro dir hfind
        simp [Disk.configIn, hnone dir (List.mem_of_find?_eq_some hfind)]
      · have hfind : (Shell.ancestors start).find? disk.stopsSearch = some dir :=
          List.find?_eq_some_iff_append.mpr ⟨by simp [Disk.stopsSearch, hmarker], nearer,
            farther, hsplit, fun d hd => (hpassed d).mpr (hnearer d hd)⟩
        simp [hfind, Disk.configIn, hconfig]

end CommandLine
