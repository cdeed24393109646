import TestBench.CommandLine.Project
import TestBench.Proofs.Ways

/-! Beginning a project. Its configuration is written before its scripts are, so a start that fails at the
scripts leaves a configuration, and every later start takes that for a project and adds nothing. A file that
is there is left as it is, but for one that stands in the place of the example script. -/
namespace TestBench.CommandLine.Project

/-- What the example of a configuration is written as. -/
def config : Content := ⟨bytesOf configText,none⟩

/-- What the example of a script is written as. -/
def scriptContent : Content := ⟨bytesOf scriptText,some script⟩

def scriptPath (directory : Path) : Path := (scriptsPath directory).within (.ofText scriptName)

section Places

variable (s : Setting) (path : Path)

/-- Where the path of a project leads, by its text alone. -/
def home : List String := Path.lead (FileTree.base s.directory path) path.parts

def configWay : List String := home s path ++ [configName]

def scriptsWay : List String := home s path ++ [scriptsName]

def scriptWay : List String := home s path ++ [scriptsName,scriptName]

/-- A new project can be begun: its directory is there or can be made, and its configuration can be written
as a new file. -/
structure Fresh (made : FileTree) : Prop where
  ensured : s.tree.ensure s.directory path = (.ok (),made)
  opened : made.openAt s.directory (configPath path) = .ok (configWay s path,none)

/-- Something is in the way of the scripts of a project. -/
inductive Cluttered (made : FileTree) : Prop
  | file (c : Content) (h : made.get? (scriptsWay s path) = some (.file c))
  | directory (h : made.get? (scriptWay s path) = some .directory)
  | long (h : longestPath < (scriptPath path).text.utf8ByteSize)

/-- A project with all its examples. -/
structure Complete (t : FileTree) : Prop where
  config : t.get? (configWay s path) = some (.file config)
  scripts : t.get? (scriptsWay s path) = some .directory
  script : t.get? (scriptWay s path) = some (.file scriptContent)

/-- A tree in which a project has all but its script. -/
structure Furnished (made t : FileTree) : Prop where
  keeps : made.Keeps t
  config : t.get? (configWay s path) = some (.file config)
  scripts : t.get? (scriptsWay s path) = some .directory
  script : t.get? (scriptWay s path) = made.get? (scriptWay s path)

end Places

variable {s : Setting} {path : Path} {made t : FileTree} {directory : String}

lemma fits_config : FileTree.Fits configName := ⟨by decide,by decide +kernel⟩

lemma fits_scripts : FileTree.Fits scriptsName := ⟨by decide,by decide +kernel⟩

lemma fits_script : FileTree.Fits scriptName := ⟨by decide,by decide +kernel⟩

lemma configPath_eq : configPath path = path.child configName := Path.within_name (by decide +kernel)

lemma scriptsPath_eq : scriptsPath path = path.child scriptsName := Path.within_name (by decide +kernel)

lemma scriptPath_eq : scriptPath path = (path.child scriptsName).child scriptName := by
  rw [scriptPath,scriptsPath_eq]
  exact Path.within_name (by decide +kernel)

lemma scriptWay_eq : scriptWay s path = scriptsWay s path ++ [scriptName] := by
  simp [scriptWay,scriptsWay]

lemma scriptsWay_ne_configWay : scriptsWay s path ≠ configWay s path := by
  simp [scriptsWay,configWay,scriptsName,configName]

lemma scriptWay_ne_configWay : scriptWay s path ≠ configWay s path := by
  simp [scriptWay,configWay]

lemma scriptWay_ne_scriptsWay : scriptWay s path ≠ scriptsWay s path := by
  simp [scriptWay,scriptsWay]

/-- The configuration of a project is looked for in its directory. -/
lemma locate_config {way : List String} (h : made.locate s.directory (configPath path) = .ok way) :
    way = configWay s path := by
  rw [configPath_eq,FileTree.locate_child_eq_ok fits_config] at h
  obtain ⟨-,w,hw,rfl⟩ := h
  rw [configWay,home,hw.eq_lead]

lemma get?_configured {way : List String} (hway : way ≠ configWay s path) :
    (made.put (configWay s path) (.file config)).get? way = made.get? way :=
  FileTree.get?_put_of_ne _ made hway

namespace Fresh

variable (h : Fresh s path made)

include h

lemma located : made.locate s.directory (configPath path) = .ok (configWay s path) :=
  (FileTree.openAt_eq_new.mp h.opened).1

lemma unconfigured : made.get? (configWay s path) = none := (FileTree.openAt_eq_new.mp h.opened).2

lemma enters : made.Enters (FileTree.base s.directory path) path.parts (home s path) := by
  have hl := h.located
  rw [configPath_eq,FileTree.locate_child_eq_ok fits_config] at hl
  obtain ⟨-,w,hw,-⟩ := hl
  rwa [hw.eq_lead] at hw

lemma usable : FileTree.unusable? (path.child configName) = none := by
  have hl := h.located
  rw [configPath_eq,FileTree.locate_child_eq_ok fits_config] at hl
  exact hl.1

lemma usable_scripts : FileTree.unusable? (path.child scriptsName) = none :=
  FileTree.unusable?_child_of_le h.usable (by decide +kernel) (by decide +kernel)

/-- Once the configuration is written, only the scripts are left to be made. -/
lemma begin_eq (hpath : path = Path.ofText directory) : begin s directory =
    match (made.put (configWay s path) (.file config)).ensure s.directory (scriptsPath path) with
    | (.error f,t) => failed s f t
    | (.ok (),t) =>
      match t.write s.directory (scriptPath path) scriptContent with
      | (.error f,t) => failed s f t
      | (.ok (),t) => ⟨.exit 0,t,s.clock,announcement directory,""⟩ := by
  subst hpath
  have hwrite : made.write s.directory (configPath (.ofText directory)) ⟨bytesOf configText,none⟩ =
      (.ok (),made.put (configWay s (.ofText directory)) (.file config)) := by
    rw [FileTree.write_of_located h.located,h.unconfigured]
    rfl
  simp only [begin,h.ensured,FileTree.exists?_of_located h.located,h.unconfigured,Option.isSome_none,write,
    hwrite,andThen]
  cases (made.put (configWay s (.ofText directory)) (.file config)).ensure s.directory
      (scriptsPath (.ofText directory)) with
  | mk result t => cases result <;> rfl

lemma keeps_configured : made.Keeps (made.put (configWay s path) (.file config)) := .put h.unconfigured _

lemma get?_configured_same :
    (made.put (configWay s path) (.file config)).get? (configWay s path) = some (.file config) :=
  FileTree.get?_put_same _ made (FileTree.ne_nil_of_missing h.unconfigured)

lemma ensure_scripts :
    (made.put (configWay s path) (.file config)).ensure s.directory (scriptsPath path) =
      match made.get? (scriptsWay s path) with
      | some .directory => (.ok (),made.put (configWay s path) (.file config))
      | some (.file _) => (.error .exists,made.put (configWay s path) (.file config))
      | none => (.ok (),(made.put (configWay s path) (.file config)).put (scriptsWay s path) .directory) := by
  have hensure := FileTree.ensure_child fits_scripts h.usable_scripts (h.enters.keeps h.keeps_configured)
  rw [← scriptsWay,get?_configured scriptsWay_ne_configWay,← scriptsPath_eq] at hensure
  exact hensure

/-- Unless a file stands in the place of the scripts, their directory is there or can be made. -/
lemma exists_furnished (hfile : ∀ c, made.get? (scriptsWay s path) ≠ some (.file c)) :
    ∃ t, (made.put (configWay s path) (.file config)).ensure s.directory (scriptsPath path) = (.ok (),t) ∧
      Furnished s path made t := by
  rw [h.ensure_scripts]
  cases hnode : made.get? (scriptsWay s path) with
  | some node =>
    cases node with
    | file c => exact absurd hnode (hfile c)
    | directory =>
      exact ⟨_,rfl,h.keeps_configured,h.get?_configured_same,h.keeps_configured _ _ hnode,
        get?_configured scriptWay_ne_configWay⟩
  | none =>
    have hnone := (get?_configured scriptsWay_ne_configWay).trans hnode
    have hkeeps := FileTree.Keeps.put hnone .directory
    refine ⟨_,rfl,h.keeps_configured.trans hkeeps,hkeeps _ _ h.get?_configured_same,
      FileTree.get?_put_same _ _ (FileTree.ne_nil_of_missing hnone),?_⟩
    rw [FileTree.get?_put_of_ne _ _ scriptWay_ne_scriptsWay,get?_configured scriptWay_ne_configWay]

/-- Where the script of a furnished project is to be written. -/
lemma locate_script (ht : Furnished s path made t) :
    (longestPath < (scriptPath path).text.utf8ByteSize ∧
      ∃ f, t.locate s.directory (scriptPath path) = .error f) ∨
    ((scriptPath path).text.utf8ByteSize ≤ longestPath ∧
      t.locate s.directory (scriptPath path) = .ok (scriptWay s path)) := by
  have henters : t.Enters (FileTree.base s.directory (path.child scriptsName))
      (path.child scriptsName).parts (scriptsWay s path) :=
    (h.enters.keeps ht.keeps).snoc fits_scripts.not_up fits_scripts.short ht.scripts
  have hnul : (scriptPath path).hasNul = false := by
    have hpath := (FileTree.unusable?_eq_none.mp h.usable_scripts).1
    rw [scriptPath_eq,Path.hasNul_child,hpath]
    decide +kernel
  rcases Nat.lt_or_ge longestPath (scriptPath path).text.utf8ByteSize with hlong | hshort
  · refine .inl ⟨hlong,?_⟩
    cases hl : t.locate s.directory (scriptPath path) with
    | error f => exact ⟨f,rfl⟩
    | ok way =>
      rw [scriptPath_eq,FileTree.locate_child_eq_ok fits_script,← scriptPath_eq,
        FileTree.unusable?_eq_none] at hl
      exact absurd hl.1.2 (Nat.not_le.mpr hlong)
  · refine .inr ⟨hshort,?_⟩
    rw [scriptPath_eq,FileTree.locate_child_eq_ok fits_script,← scriptPath_eq,FileTree.unusable?_eq_none]
    exact ⟨⟨hnul,hshort⟩,scriptsWay s path,henters,scriptWay_eq⟩

/-- A start that is hindered at the scripts fails and leaves the configuration. -/
theorem begin_of_cluttered (hpath : path = Path.ofText directory) (hc : Cluttered s path made) :
    ∃ f t, begin s directory = failed s f t ∧ made.Keeps t ∧
      t.get? (configWay s path) = some (.file config) := by
  by_cases hfile : ∃ c, made.get? (scriptsWay s path) = some (.file c)
  · obtain ⟨c,hfile⟩ := hfile
    refine ⟨.exists,_,?_,h.keeps_configured,h.get?_configured_same⟩
    rw [h.begin_eq hpath,h.ensure_scripts,hfile]
  · obtain ⟨t,hensure,ht⟩ := h.exists_furnished (not_exists.mp hfile)
    rw [h.begin_eq hpath,hensure]
    dsimp only
    rcases h.locate_script ht with ⟨-,f,hl⟩ | ⟨hshort,hl⟩
    · rw [FileTree.write_of_unlocated hl]
      exact ⟨f,t,rfl,ht.keeps,ht.config⟩
    · cases hc with
      | file c hc => exact absurd ⟨c,hc⟩ hfile
      | long hlong => exact absurd hshort (Nat.not_le.mpr hlong)
      | directory hd =>
        rw [FileTree.write_of_located hl,ht.script,hd]
        exact ⟨.isDirectory,t,rfl,ht.keeps,ht.config⟩

/-- A start that nothing hinders makes a whole project, and leaves all but what is in the place of the
script. -/
theorem begin_of_clear (hpath : path = Path.ofText directory) (hc : ¬ Cluttered s path made) :
    ∃ t, begin s directory = ⟨.exit 0,t,s.clock,announcement directory,""⟩ ∧ Complete s path t ∧
      ∀ way node, way ≠ scriptWay s path → made.get? way = some node → t.get? way = some node := by
  obtain ⟨t,hensure,ht⟩ := h.exists_furnished fun c hfile => hc (.file c hfile)
  have hlocate : t.locate s.directory (scriptPath path) = .ok (scriptWay s path) :=
    (h.locate_script ht).elim (fun hl => absurd (.long hl.1) hc) And.right
  have hwrite : t.write s.directory (scriptPath path) scriptContent =
      (.ok (),t.put (scriptWay s path) (.file scriptContent)) := by
    have hd : t.get? (scriptWay s path) ≠ some .directory := fun hd => hc (.directory (ht.script ▸ hd))
    rw [FileTree.write_of_located hlocate]
    cases hnode : t.get? (scriptWay s path) with
    | none => rfl
    | some node =>
      cases node with
      | directory => exact absurd hnode hd
      | file c => rfl
  have hkept {way node} (hway : way ≠ scriptWay s path) (hnode : t.get? way = some node) :
      (t.put (scriptWay s path) (.file scriptContent)).get? way = some node := by
    rw [FileTree.get?_put_of_ne _ t hway,hnode]
  refine ⟨t.put (scriptWay s path) (.file scriptContent),?_,
    ⟨hkept scriptWay_ne_configWay.symm ht.config,hkept scriptWay_ne_scriptsWay.symm ht.scripts,?_⟩,
    fun way node hway hnode => hkept hway (ht.keeps way node hnode)⟩
  · rw [h.begin_eq hpath,hensure]
    dsimp only
    rw [hwrite]
  · exact FileTree.get?_put_same _ t (by simp [scriptWay])

end Fresh

/-- A start that finds no place for a new project writes no file. -/
theorem makesRoom_of_not_fresh (h : ∀ made, ¬ Fresh s (.ofText directory) made) :
    s.tree.MakesRoom (begin s directory).tree := by
  have hroom := s.tree.makesRoom_ensure s.directory (.ofText directory)
  cases he : s.tree.ensure s.directory (.ofText directory) with
  | mk result made =>
    rw [he] at hroom
    cases result with
    | error f =>
      simp only [begin,he]
      exact hroom
    | ok _ =>
      cases hl : made.locate s.directory (configPath (.ofText directory)) with
      | error f =>
        have hwrite := FileTree.write_of_unlocated (c := ⟨bytesOf configText,none⟩) hl
        rcases FileTree.exists?_of_unlocated hl with hexists | hexists
        · simp only [begin,he,hexists,write,hwrite,andThen]
          exact hroom
        · simp only [begin,he,hexists]
          exact hroom
      | ok way =>
        obtain rfl := locate_config hl
        have hexists := FileTree.exists?_of_located hl
        cases hnode : made.get? (configWay s (.ofText directory)) with
        | none => exact absurd ⟨he,FileTree.openAt_eq_new.mpr ⟨hl,hnode⟩⟩ (h made)
        | some node =>
          rw [hnode] at hexists
          simp only [begin,he,hexists,Option.isSome_some]
          exact hroom

/-- A start that finds a configuration adds nothing to it. -/
lemma begin_of_configured (he : s.tree.ensure s.directory (.ofText directory) = (.ok (),made))
    (hexists : made.exists? s.directory (configPath (.ofText directory)) = .ok true) :
    begin s directory = ⟨.exit 0,made,s.clock,skipped directory,""⟩ := by
  simp only [begin,he,hexists]

/-- A start that fails leaves a configuration that was not there before exactly if a new project could be
begun and something was in the way of its scripts; and that is a failure always. Every later start that finds
a configuration adds nothing to it, and every later start that finds none, and nothing in the way, makes the
whole project. -/
theorem failed_start_leaves_config_iff (s : Setting) (directory : String) :
    let path := Path.ofText directory
    let started := begin s directory
    (∀ e, started.ending = .escaped e → s.tree.get? (configWay s path) = none →
      ((∃ c, started.tree.get? (configWay s path) = some (.file c)) ↔
        ∃ made, Fresh s path made ∧ Cluttered s path made)) ∧
    (∀ made, Fresh s path made → Cluttered s path made → ∃ e, started.ending = .escaped e) ∧
    (∀ later made, later.tree.ensure later.directory path = (.ok (),made) →
      made.exists? later.directory (configPath path) = .ok true →
      begin later directory = ⟨.exit 0,made,later.clock,skipped directory,""⟩) ∧
    ∀ later made, Fresh later path made → ¬ Cluttered later path made →
      ∃ t, begin later directory = ⟨.exit 0,t,later.clock,announcement directory,""⟩ ∧
        Complete later path t := by
  intro path started
  refine ⟨fun e he hnone => ⟨fun ⟨c,hc⟩ => ?_,fun ⟨made,h,hclutter⟩ => ?_⟩,fun made h hclutter => ?_,
    fun later made he hexists => begin_of_configured he hexists,fun later made h hclear => ?_⟩
  · by_cases hfresh : ∃ made, Fresh s path made
    · obtain ⟨made,h⟩ := hfresh
      refine ⟨made,h,by_contra fun hclear => ?_⟩
      obtain ⟨t,hbegin,-⟩ := h.begin_of_clear rfl hclear
      simp [started,hbegin] at he
    · rw [(makesRoom_of_not_fresh (not_exists.mp hfresh)).file _ _ hc] at hnone
      cases hnone
  · obtain ⟨f,t,hbegin,-,hconfig⟩ := h.begin_of_cluttered rfl hclutter
    refine ⟨config,?_⟩
    simp only [started,hbegin]
    exact hconfig
  · obtain ⟨f,t,hbegin,-⟩ := h.begin_of_cluttered rfl hclutter
    exact ⟨.ofFile f,by simp only [started,hbegin,failed]⟩
  · obtain ⟨t,hbegin,hcomplete,-⟩ := h.begin_of_clear rfl hclear
    exact ⟨t,hbegin,hcomplete⟩

/-- A file by the name of the directory that scripts are to be in. -/
def hindered : Setting :=
  ⟨FileTree.empty.plant ["w","p","scripts"] ⟨[],none⟩,["w"],⟨[]⟩,⟨[]⟩⟩

/-- What a failed start leaves, once that file is taken away. -/
def cleared : Setting :=
  { hindered with tree :=
      ⟨(begin hindered "p").tree.entries.filter fun e => e.1 != ["w","p","scripts"]⟩ }

/-- A start fails and leaves a configuration that was not there, so that the next start, with nothing in its
way any more, makes no scripts. -/
theorem config_left_behind :
    (hindered.tree.get? ["w","p","hostcheck.yaml"]).isNone = true ∧
    (begin hindered "p").ending = .escaped ⟨"FileExistsError",none⟩ ∧
    ((begin hindered "p").tree.get? ["w","p","hostcheck.yaml"]).isSome = true ∧
    (cleared.tree.get? ["w","p","scripts"]).isNone = true ∧
    (begin cleared "p").output = skipped "p" ∧
    ((begin cleared "p").tree.get? ["w","p","scripts"]).isNone = true :=
  ⟨by decide +kernel,by decide +kernel,by decide +kernel,by decide +kernel,by decide +kernel,
    by decide +kernel⟩

/-- However a start ends, a file that was there holds what it held, unless it is in the place of the example
script, holds something else, and a new project could be begun with nothing in its way. The example stands
there then, and the start ends well. -/
theorem file_lost_iff (s : Setting) (directory : String) :
    let path := Path.ofText directory
    let started := begin s directory
    (∀ way c, s.tree.get? way = some (.file c) →
      (started.tree.get? way ≠ some (.file c) ↔ way = scriptWay s path ∧ c ≠ scriptContent ∧
        ∃ made, Fresh s path made ∧ ¬ Cluttered s path made)) ∧
    ∀ made, Fresh s path made → ¬ Cluttered s path made →
      started.ending = .exit 0 ∧ started.tree.get? (scriptWay s path) = some (.file scriptContent) := by
  intro path started
  have hends : ∀ made, Fresh s path made → ¬ Cluttered s path made →
      started.ending = .exit 0 ∧ started.tree.get? (scriptWay s path) = some (.file scriptContent) := by
    intro made h hclear
    obtain ⟨t,hbegin,hcomplete,-⟩ := h.begin_of_clear rfl hclear
    change (begin s directory).ending = .exit 0 ∧ (begin s directory).tree.get? _ = _
    rw [hbegin]
    exact ⟨rfl,hcomplete.script⟩
  refine ⟨fun way c hway => ⟨fun hlost => ?_,fun ⟨hscript,hc,made,h,hclear⟩ => ?_⟩,hends⟩
  · by_cases hfresh : ∃ made, Fresh s path made
    · obtain ⟨made,h⟩ := hfresh
      have hmade : made.get? way = some (.file c) := by
        have hroom := s.tree.makesRoom_ensure s.directory path
        rw [h.ensured] at hroom
        exact hroom.keeps _ _ hway
      by_cases hclutter : Cluttered s path made
      · obtain ⟨f,t,hbegin,hkeeps,-⟩ := h.begin_of_cluttered rfl hclutter
        simp only [started,hbegin] at hlost
        exact absurd (hkeeps _ _ hmade) hlost
      · have hscript : way = scriptWay s path := by
          by_contra hne
          obtain ⟨t,hbegin,-,hkept⟩ := h.begin_of_clear rfl hclutter
          simp only [started,hbegin] at hlost
          exact hlost (hkept way _ hne hmade)
        refine ⟨hscript,fun hc => hlost ?_,made,h,hclutter⟩
        rw [hscript,hc]
        exact (hends made h hclutter).2
    · exact absurd ((makesRoom_of_not_fresh (not_exists.mp hfresh)).keeps _ _ hway) hlost
  · rw [hscript,(hends made h hclear).2]
    intro he
    exact hc (Node.file.inj (Option.some.inj he)).symm

/-- A script of somebody's own in the place of the example, where no configuration is. -/
def ownScript : Setting :=
  ⟨FileTree.empty.plant ["w","p","scripts","smoke_tests.py"] ⟨[35],none⟩,["w"],⟨[]⟩,⟨[]⟩⟩

/-- A start ends well, and a file that was there holds something else. -/
theorem own_script_overwritten :
    ownScript.tree.bytesAt ["w","p","scripts","smoke_tests.py"] = [35] ∧
    (begin ownScript "p").ending = .exit 0 ∧
    (begin ownScript "p").tree.bytesAt ["w","p","scripts","smoke_tests.py"] ≠ [35] :=
  ⟨by decide +kernel,by decide +kernel,by decide +kernel⟩

end TestBench.CommandLine.Project
