import SurfaceDrift.Proofs.CommandLine.Directories
import SurfaceDrift.Proofs.Storage.FileTree

/-!
# Which configuration a run finds

Where no configuration file is named, ten directories are searched, from the current one
upward. In each of them there is no such file, one that cannot be used, or one that states a
configuration (`Finding`). A run takes the nearest file that can be used (`nearestUsable`) and
sees no file beyond it.

By its own words the program falls back to the defaults where the nearest file cannot be used
(`nearestDecides`). The two rules differ exactly where a file that cannot be used is passed over
for a farther one (`nearestUsable_eq_nearestDecides_iff`), so that
`configuration_discovered` says when a run has the configuration that it promises, and
`configuration_passesOver` that it may have another.
-/

namespace SurfaceDrift.CommandLine

open Storage (Entry FileTree Location)

/-- What is found in place of the configuration file of a directory. -/
inductive Finding where
  | nothing
  | unusable
  | usable (configuration : Configuration)

/-- The configuration that is found. -/
def Finding.configuration? : Finding → Option Configuration
  | .usable c => some c
  | _ => none

/-- What an entry is as a configuration file : of no use if it cannot be read or states no
configuration. -/
def Finding.ofEntry : Entry → Finding
  | .absent => .nothing
  | .directory => .unusable
  | .file (.error fault) => if fault.isAbsence then .nothing else .unusable
  | .file (.ok text) =>
    match Configuration.parse text with
    | .ok c => .usable c
    | .error _ => .unusable

/-- What is found in a directory. -/
def foundIn (t : FileTree) (l : Location) : Finding :=
  .ofEntry (t.entry (l ++ [configurationName]))

/-- What is found in the directories that are searched, the nearest one first. -/
def findings (t : FileTree) (here : Location) : List Finding :=
  (directoriesFrom here searchDepth).map (foundIn t)

/-- The nearest file decides : where it cannot be used, the defaults count. -/
def nearestDecides : List Finding → Configuration
  | [] => .empty
  | .nothing :: farther => nearestDecides farther
  | .unusable :: _ => .empty
  | .usable c :: _ => c

/-- The nearest file that can be used decides. -/
def nearestUsable (found : List Finding) : Configuration :=
  (found.findSome? Finding.configuration?).getD .empty

/-- The nearest file cannot be used, and the nearest one beyond it that can states `c`. -/
def PassedOver (found : List Finding) (c : Configuration) : Prop :=
  ∃ nearer farther, found = nearer ++ .unusable :: farther ∧ (∀ f ∈ nearer, f = .nothing) ∧
    farther.findSome? Finding.configuration? = some c

variable {t : FileTree} {here l : Location}

/-! ## Two rules -/

theorem passedOver_nothing_cons {farther : List Finding} {c : Configuration} :
    PassedOver (.nothing :: farther) c ↔ PassedOver farther c := by
  constructor
  · rintro ⟨nearer, rest, hfound, hnearer, hrest⟩
    rcases List.cons_eq_append_iff.mp hfound with ⟨-, h⟩ | ⟨nearer, rfl, hfarther⟩
    · cases h
    · exact ⟨nearer, rest, hfarther, fun f hf => hnearer f (List.mem_cons_of_mem _ hf), hrest⟩
  · rintro ⟨nearer, rest, rfl, hnearer, hrest⟩
    exact ⟨.nothing :: nearer, rest, rfl, by simpa using hnearer, hrest⟩

theorem passedOver_unusable_cons {farther : List Finding} {c : Configuration} :
    PassedOver (.unusable :: farther) c ↔
      farther.findSome? Finding.configuration? = some c := by
  constructor
  · rintro ⟨nearer, rest, hfound, hnearer, hrest⟩
    rcases List.cons_eq_append_iff.mp hfound with ⟨-, h⟩ | ⟨nearer, rfl, -⟩
    · obtain ⟨-, rfl⟩ := List.cons.inj h
      exact hrest
    · cases hnearer _ List.mem_cons_self
  · exact fun h => ⟨[], farther, rfl, by simp, h⟩

theorem not_passedOver_usable_cons {farther : List Finding} {c d : Configuration} :
    ¬PassedOver (.usable d :: farther) c := by
  rintro ⟨nearer, rest, hfound, hnearer, -⟩
  rcases List.cons_eq_append_iff.mp hfound with ⟨-, h⟩ | ⟨nearer, rfl, -⟩
  · cases h
  · cases hnearer _ List.mem_cons_self

/-- The two rules agree unless a file that cannot be used hides one that changes something. -/
theorem nearestUsable_eq_nearestDecides_iff (found : List Finding) :
    nearestUsable found = nearestDecides found ↔ ∀ c, PassedOver found c → c = .empty := by
  induction found with
  | nil =>
    refine iff_of_true rfl fun c hpassed => ?_
    obtain ⟨nearer, farther, hfound, -⟩ := hpassed
    simp at hfound
  | cons f farther ih =>
    cases f with
    | nothing =>
      simp only [passedOver_nothing_cons]
      exact ih
    | unusable =>
      simp only [passedOver_unusable_cons]
      show (farther.findSome? Finding.configuration?).getD .empty = .empty ↔ _
      cases farther.findSome? Finding.configuration? with
      | none => simp
      | some c => simp
    | usable c => exact iff_of_true rfl fun _ hpassed => absurd hpassed not_passedOver_usable_cons

/-! ## What a run reads -/

theorem foundIn_eq_usable_iff {c : Configuration} : foundIn t l = .usable c ↔
    ∃ text, t.entry (l ++ [configurationName]) = .file (.ok text) ∧
      Configuration.parse text = .ok c := by
  rw [foundIn]
  cases t.entry (l ++ [configurationName]) with
  | absent => simp [Finding.ofEntry]
  | directory => simp [Finding.ofEntry]
  | file content =>
    cases content with
    | error fault =>
      dsimp only [Finding.ofEntry]
      split <;> simp
    | ok text =>
      dsimp only [Finding.ofEntry]
      cases hparse : Configuration.parse text with
      | error fault => simp [hparse]
      | ok d => simp [hparse]

theorem foundIn_eq_unusable {text : String}
    (hentry : t.entry (l ++ [configurationName]) = .file (.ok text))
    (hparse : (Configuration.parse text).isOk = false) : foundIn t l = .unusable := by
  rw [foundIn, hentry]
  dsimp only [Finding.ofEntry]
  cases hresult : Configuration.parse text with
  | error fault => rfl
  | ok c =>
    rw [hresult] at hparse
    cases hparse

theorem configurationPaths_viewIn (h : IsWorkingDirectory t here) :
    (viewIn t here).configurationPaths =
      (directoriesFrom here searchDepth).map fun l => pathOf (l ++ [configurationName]) := by
  rw [View.configurationPaths, viewIn, ancestors_pathOf h.names, List.map_map]
  refine List.map_congr_left fun l hl => ?_
  have hunder := prefix_of_mem_directoriesFrom hl
  exact join_pathOf (fun name hname => h.names name (hunder.subset hname)) _

theorem read_configuration (h : IsWorkingDirectory t here) (hl : l <+: here) :
    (viewIn t here).read (pathOf (l ++ [configurationName])) =
      (t.entry (l ++ [configurationName])).content :=
  FileTree.read_of_locate (h.locate_inside hl isName_configurationName)

/-- A search looks at what is in a directory. -/
theorem configuration?_pathOf (h : IsWorkingDirectory t here) (hl : l <+: here) :
    (viewIn t here).configuration? (pathOf (l ++ [configurationName])) =
      (foundIn t l).configuration? := by
  rw [View.configuration?, read_configuration h hl, foundIn]
  cases t.entry (l ++ [configurationName]) with
  | absent => rfl
  | directory => rfl
  | file content =>
    cases content with
    | error fault =>
      dsimp only [Finding.ofEntry, Entry.content]
      split <;> rfl
    | ok text =>
      dsimp only [Finding.ofEntry, Entry.content]
      cases Configuration.parse text <;> rfl

/-- The first answer depends on the answers only. -/
theorem findSome?_congr {α β : Type} {f g : α → Option β} {items : List α}
    (h : ∀ a ∈ items, f a = g a) : items.findSome? f = items.findSome? g := by
  induction items with
  | nil => rfl
  | cons a rest ih =>
    rw [List.findSome?_cons, List.findSome?_cons, h a List.mem_cons_self,
      ih fun b hb => h b (List.mem_cons_of_mem a hb)]

theorem discovered_viewIn (h : IsWorkingDirectory t here) :
    (viewIn t here).discovered = nearestUsable (findings t here) := by
  have hsame : ∀ l ∈ directoriesFrom here searchDepth,
      (viewIn t here).configuration? (pathOf (l ++ [configurationName])) =
        (foundIn t l).configuration? :=
    fun l hl => configuration?_pathOf h (prefix_of_mem_directoriesFrom hl)
  rw [View.discovered, configurationPaths_viewIn h, nearestUsable, findings, List.findSome?_map,
    List.findSome?_map]
  exact congrArg (Option.getD · .empty) (findSome?_congr hsame)

/-- A run without a named file has the configuration of the nearest file that can be used,
whatever is beyond it, and the empty one where no file can be used. This is the configuration
that the nearest file decides on, the defaults if it cannot be used, except where such a file is
passed over for one that changes something. -/
theorem configuration_discovered (h : IsWorkingDirectory t here) :
    (viewIn t here).configuration none = .ok (nearestUsable (findings t here)) ∧
      ((viewIn t here).configuration none = .ok (nearestDecides (findings t here)) ↔
        ∀ c, PassedOver (findings t here) c → c = .empty) := by
  have hfound : (viewIn t here).configuration none = .ok (nearestUsable (findings t here)) :=
    congrArg Except.ok (discovered_viewIn h)
  refine ⟨hfound, ?_⟩
  rw [hfound, ← nearestUsable_eq_nearestDecides_iff]
  exact ⟨Except.ok.inj, congrArg Except.ok⟩

/-- A run that names no file is the run that names the nearest file that can be used. -/
theorem plan_of_nearest (h : IsWorkingDirectory t here) {nearer farther : List Location}
    {c : Configuration} (hsearched : directoriesFrom here searchDepth = nearer ++ l :: farther)
    (hnearer : ∀ other ∈ nearer, (foundIn t other).configuration? = none)
    (hfound : foundIn t l = .usable c) (verbosity : Nat) (command : Command) :
    plan (viewIn t here) ⟨none, verbosity, command⟩ =
      plan (viewIn t here) ⟨some (pathOf (l ++ [configurationName])), verbosity, command⟩ := by
  have hmem : l ∈ directoriesFrom here searchDepth := by simp [hsearched]
  have hl : l <+: here := prefix_of_mem_directoriesFrom hmem
  have hnone : (viewIn t here).configuration none = .ok c := by
    have hnearest : (findings t here).findSome? Finding.configuration? = some c := by
      rw [findings, hsearched, List.map_append, List.map_cons, hfound, List.findSome?_append,
        List.findSome?_eq_none_iff.mpr (by simpa using hnearer)]
      rfl
    rw [View.configuration, discovered_viewIn h, nearestUsable, hnearest]
    rfl
  have hnamed : (viewIn t here).configuration (some (pathOf (l ++ [configurationName]))) =
      .ok c := by
    obtain ⟨text, hentry, hparse⟩ := foundIn_eq_usable_iff.mp hfound
    have hread : (viewIn t here).read (pathOf (l ++ [configurationName])) = .ok text := by
      rw [read_configuration h hl, hentry]
      rfl
    rw [View.configuration, hread]
    dsimp only
    rw [hparse]
    rfl
  unfold plan
  cases command with
  | compare a =>
    dsimp only [comparePlan]
    rw [hnone, hnamed]
  | pipeline a =>
    dsimp only [pipelinePlan]
    rw [hnone, hnamed]
  | normalize a => dsimp only
  | algorithms => dsimp only
  | init force => dsimp only

/-- A project whose file asks for no worker, in a directory whose file makes sense. -/
def misconfiguredProject : FileTree :=
  ⟨[([".apidrift.toml"], .ok "[params.textnormalizer]\ncollisions = \"reject\"\n"),
    (["pkg", ".apidrift.toml"], .ok "[compare]\njobs = 0\n")], [["pkg"]]⟩

theorem isWorkingDirectory_misconfiguredProject :
    IsWorkingDirectory misconfiguredProject ["pkg"] where
  names name hname := by
    rw [List.mem_singleton.mp hname]
    constructor <;> decide
  directories l hl := by
    rcases List.prefix_cons_iff.mp hl with rfl | ⟨rest, rfl, hrest⟩
    · rfl
    · rw [List.prefix_nil.mp hrest]
      rfl

theorem findings_misconfiguredProject :
    ∃ c, findings misconfiguredProject ["pkg"] = [.unusable, .usable c] ∧ c ≠ .empty := by
  have hnear : (Configuration.parse "[compare]\njobs = 0\n").isOk = false := by decide +kernel
  have hfar : (Configuration.parse
      "[params.textnormalizer]\ncollisions = \"reject\"\n").toOption.map (·.params.isEmpty) =
        some false := by
    decide +kernel
  have hsearched : directoriesFrom ["pkg"] searchDepth = [["pkg"], []] := by decide
  obtain ⟨c, hc, hparams⟩ := Option.map_eq_some_iff.mp hfar
  refine ⟨c, ?_, ?_⟩
  · have hparse : Configuration.parse
        "[params.textnormalizer]\ncollisions = \"reject\"\n" = .ok c :=
      toOption_eq_some_iff.mp hc
    rw [findings, hsearched, List.map_cons, List.map_singleton,
      foundIn_eq_unusable rfl hnear, foundIn_eq_usable_iff.mpr ⟨_, rfl, hparse⟩]
  · rintro rfl
    cases hparams

theorem configuration_discovered_misconfiguredProject :
    IsWorkingDirectory misconfiguredProject ["pkg"] ∧
      ∃ c, (viewIn misconfiguredProject ["pkg"]).configuration none = .ok c ∧ c ≠ .empty := by
  obtain ⟨c, hfound, hc⟩ := findings_misconfiguredProject
  refine ⟨isWorkingDirectory_misconfiguredProject, c, ?_, hc⟩
  rw [(configuration_discovered isWorkingDirectory_misconfiguredProject).1, hfound]
  rfl

/-- An unusable file is passed over : the run has neither it nor the defaults. -/
theorem configuration_passesOver :
    ¬(viewIn misconfiguredProject ["pkg"]).configuration none =
      .ok (nearestDecides (findings misconfiguredProject ["pkg"])) := by
  obtain ⟨c, hfound, hc⟩ := findings_misconfiguredProject
  have hdiscovered := discovered_viewIn isWorkingDirectory_misconfiguredProject
  rw [View.configuration, hdiscovered, hfound]
  exact fun h => hc (Except.ok.inj h)

end SurfaceDrift.CommandLine
