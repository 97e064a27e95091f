import AnchorIndex.Proofs.Session.Isolation
import AnchorIndex.Proofs.Session.Retaining

/-!
# Entrypoints that are stored

Whether a function is an entrypoint is decided twice: the functions inside the program module are
looked for in the library file, and when all files are scanned, a function is compared with them by
its path, its name and its first line. Functions of one text do not begin on the same line, so both
agree (`any_entrypoints_eq`), and the entrypoints that a scan stores are those of the library file
(`entrypoints_after_scan`).
-/

namespace AnchorIndex

/-! ### Entrypoints of a text -/

namespace Source

/-- A range lies strictly inside the program module of a text. -/
def inProgramModule (text : String) (r : Range) : Bool :=
  (programModule? text).any fun (first, last) => first < r.first && r.last < last

/-- The entrypoints of a text are its functions inside the program module. -/
theorem forall₂_entrypoints (text : String) :
  List.Forall₂ (fun r p => p.name = r.name ∧ p.first = r.first ∧ p.last = r.last)
    ((scan .function text).filter (inProgramModule text)) (entrypoints text)
  := by
  rw [entrypoints]
  cases hmodule : programModule? text with
  | none =>
    have hnone : (scan .function text).filter (inProgramModule text) = [] := by
      rw [List.filter_eq_nil_iff]
      intro r _
      simp [inProgramModule, hmodule]
    rw [hnone]
    exact .nil
  | some lines =>
    obtain ⟨first, last⟩ := lines
    have hinside : inProgramModule text = fun r => first < r.first && r.last < last := by
      funext r
      rw [inProgramModule, hmodule]
      rfl
    rw [hinside, List.forall₂_map_right_iff, List.forall₂_same]
    intro r _
    exact ⟨rfl, rfl, rfl⟩

/-- Functions of a text do not begin on the same line. -/
theorem nodup_first_entrypoints (text : String) :
  ((entrypoints text).map (·.first)).Nodup
  := by
  have hfirst : ((scan .function text).filter (inProgramModule text)).map (·.first)
      = (entrypoints text).map (·.first) := by
    rw [← List.forall₂_eq_eq_eq, List.forall₂_map_left_iff, List.forall₂_map_right_iff]
    apply (forall₂_entrypoints text).imp
    rintro r p ⟨-, h, -⟩
    exact h.symm
  rw [← hfirst]
  apply List.Nodup.sublist (List.filter_sublist.map _)
  rw [List.Nodup, List.pairwise_map]
  apply List.Pairwise.imp_of_mem _ (pairwise_scan .function text)
  intro a b ha hb hlt heq
  have hbounds := bounds_of_mem_scan ha
  omega

/-- A function has the name and the first line of an entrypoint exactly if it lies inside the
program module. -/
theorem any_entrypoints_eq {text : String} {r : Range} (hr : r ∈ scan .function text) :
  ((entrypoints text).any fun p => p.name == r.name && p.first == r.first)
    = inProgramModule text r
  := by
  rw [Bool.eq_iff_iff, List.any_eq_true]
  constructor
  · rintro ⟨p, hp, hsame⟩
    rw [Bool.and_eq_true, beq_iff_eq, beq_iff_eq] at hsame
    obtain ⟨r', hr', -, hfirst, -⟩ := exists_of_forall₂_right (forall₂_entrypoints text) hp
    rw [List.mem_filter] at hr'
    have hbounds := bounds_of_mem_scan hr
    have hbounds' := bounds_of_mem_scan hr'.1
    have hstart : r.first = r'.first := by rw [← hsame.2, hfirst]
    rw [eq_of_overlap hr hr'.1 (by omega) (by omega)]
    exact hr'.2
  · intro hinside
    obtain ⟨p, hp, hname, hfirst, -⟩ := exists_of_forall₂_left (forall₂_entrypoints text)
      (List.mem_filter.2 ⟨hr, hinside⟩)
    use p, hp
    rw [hname, hfirst, beq_self_eq_true, beq_self_eq_true]
    rfl

end Source

/-- A function has the role of an entrypoint exactly if it is classified as one. -/
theorem functionRole_eq_entrypoint_iff {path : String} {r : Source.Range} {program : Program} :
  functionRole path r program = .entrypoint ↔ program.isEntrypoint path r = true
  := by
  rw [functionRole]
  split
  next h => simp [h]
  next h =>
    rw [iff_false_right h]
    split
    · simp
    · split
      · split <;> simp
      · simp

namespace Session

open Effect
open Files (SourceFile Walk)
open Source (Range inProgramModule)

/-! ### The program -/

theorem textAt?_of_mem {files : List SourceFile} (hfiles : (files.map (·.path)).Nodup)
    {file : SourceFile} (h : file ∈ files) :
  textAt? files file.path = some file.text
  := by
  obtain ⟨text, htext⟩ := Option.isSome_iff_exists.1 (isSome_textAt?_of_mem h)
  rw [htext]
  obtain ⟨file', hfind, rfl⟩ := Option.map_eq_some_iff.1 htext
  have hpath : file'.path = file.path := by simpa using List.find?_some hfind
  rw [List.inj_on_of_nodup_map hfiles (List.mem_of_find?_eq_some hfind) h hpath]

/-- If the library file is walked, what is known of the program are its entrypoints. -/
theorem eq_of_run_program {files : List SourceFile} {t t' : State} {known : Program}
    {path text : String} (hlib : t.settings.libPath? t.store.disk = .ok (some path))
    (htext : textAt? files path = some text)
    (h : run (program files) t = (.ok known, t')) :
  known = ⟨some path, Source.entrypoints text⟩
  := by
  rw [program, run_get_bind] at h
  obtain ⟨_, t₁, hlift, h⟩ := exists_of_run_bind h
  rw [run_lift, hlib] at hlift
  cases hlift
  simp only [htext, run_pure] at h
  cases h
  rfl

/-- A function is an entrypoint exactly if it lies inside the program module of the library file. -/
theorem Describes.role_eq_entrypoint_iff {files : List SourceFile}
    (hfiles : (files.map (·.path)).Nodup) {file : SourceFile} (hfile : file ∈ files)
    {kinds : List Kind} {p : SourceFile × Range} (hp : p ∈ rangesIn files .function) {e : Entity}
    (h : Describes ⟨some file.path, Source.entrypoints file.text⟩ kinds .function p e) :
  e.role = .entrypoint ↔ p.1.path = file.path ∧ inProgramModule file.text p.2 = true
  := by
  obtain ⟨file', r⟩ := p
  obtain ⟨hfile', hr⟩ := mem_rangesIn.1 hp
  rw [h.role, roleOf, functionRole_eq_entrypoint_iff, Program.isEntrypoint, Bool.and_eq_true,
    beq_iff_eq, Option.some.injEq, eq_comm]
  apply and_congr_right
  intro hpath
  obtain rfl : file' = file := List.inj_on_of_nodup_map hfiles hfile' hfile hpath
  rw [Source.any_entrypoints_eq hr]

/-! ### What is stored -/

/-- The entity stands at these lines of a file under this name. -/
structure StandsAt (path name : String) (first last : Nat) (e : Entity) : Prop where
  path : e.path = path
  name : e.name = name
  first : e.first = first
  last : e.last = last

/-- The functions of the library file inside its program module, in any order among those of all
files, are its entrypoints in some order. -/
theorem exists_perm_entrypoints {files : List SourceFile} (hfiles : (files.map (·.path)).Nodup)
    {file : SourceFile} (hfile : file ∈ files) {ps : List (SourceFile × Range)}
    (hps : ps.Perm (rangesIn files .function)) :
  ∃ found, found.Perm (Source.entrypoints file.text) ∧
    List.Forall₂ (fun p (q : Source.Entrypoint) =>
      p.1 = file ∧ q.name = p.2.name ∧ q.first = p.2.first ∧ q.last = p.2.last)
      (ps.filter fun p => p.1.path == file.path && inProgramModule file.text p.2) found
  := by
  have hfunctions : (rangesIn files .function).filter
        (fun p => p.1.path == file.path && inProgramModule file.text p.2)
      = ((Source.scan .function file.text).filter (inProgramModule file.text)).map
        fun r => (file, r) := by
    calc (rangesIn files .function).filter
          (fun p => p.1.path == file.path && inProgramModule file.text p.2)
        = ((rangesIn files .function).filter (·.1.path == file.path)).filter
            (fun p => inProgramModule file.text p.2) := by
          rw [List.filter_filter]
          apply List.filter_congr
          intro p _
          apply Bool.and_comm
      _ = ((Source.scan .function file.text).map fun r => (file, r)).filter
            (fun p => inProgramModule file.text p.2) := by
          rw [filter_rangesIn .function hfiles hfile]
      _ = _ := List.filter_map
  have hperm := hps.filter fun p => p.1.path == file.path && inProgramModule file.text p.2
  rw [hfunctions] at hperm
  have hentrypoints : List.Forall₂ (fun (p : SourceFile × Range) (q : Source.Entrypoint) =>
      p.1 = file ∧ q.name = p.2.name ∧ q.first = p.2.first ∧ q.last = p.2.last)
      (((Source.scan .function file.text).filter (inProgramModule file.text)).map
        fun r => (file, r))
      (Source.entrypoints file.text) := by
    rw [List.forall₂_map_left_iff]
    apply (Source.forall₂_entrypoints file.text).imp
    intro r q hq
    exact ⟨rfl, hq⟩
  obtain ⟨found, hfound, hperm⟩ := List.perm_comp_forall₂ hperm hentrypoints
  exact ⟨found, hperm, hfound⟩

/-- After a scan that succeeds, where the library file of the program is a walked file and functions
are configured, the stored entrypoints correspond one to one to the entrypoints of the text of that
file. Of all stored functions, which are those of the walked files, these are the ones that stand
in the library file and strictly inside its program module. -/
theorem entrypoints_after_scan {s₀ s : State} {summary : Summary} {found : Walk}
    {file : SourceFile} (hproper : s₀.store.disk.tree.isProper = true)
    (hscan : run scan s₀ = (.ok summary, s)) (hwalk : s₀.walk = .ok found)
    (hfile : file ∈ found.files)
    (hlib : s₀.settings.libPath? s₀.store.disk = .ok (some file.path))
    (hkind : Kind.function ∈ s₀.settings.scan.kinds) :
  ∃ ps functions entrypoints stored,
    answer (onStore (Store.all .function)) s = .ok functions
    ∧ ps.Perm (rangesIn found.files .function)
    ∧ List.Forall₂ (fun p e => StandsAt p.1.path p.2.name p.2.first p.2.last e ∧
        (e.role = .entrypoint ↔
          p.1.path = file.path ∧ inProgramModule file.text p.2 = true)) ps functions
    ∧ answer (onStore (Store.query .function none (some .entrypoint))) s = .ok stored
    ∧ entrypoints.Perm (Source.entrypoints file.text)
    ∧ (entrypoints.map (·.first)).Nodup
    ∧ List.Forall₂ (fun p e => StandsAt file.path p.name p.first p.last e) entrypoints stored
  := by
  obtain ⟨found', known, sources, hwalk', hprogram, -, hstored⟩ := stored_after_scan hproper hscan
  rw [hwalk] at hwalk'
  cases hwalk'
  have hfiles := Files.nodup_walk hproper hwalk
  obtain rfl := eq_of_run_program (t := s₀.anew []) hlib (textAt?_of_mem hfiles hfile) hprogram
  obtain ⟨ps, functions, hfunctions, -, hps, hdescribes⟩ := hstored .function hkind
  obtain ⟨entrypoints, hentrypoints, hfound⟩ := exists_perm_entrypoints hfiles hfile hps
  have hstands : List.Forall₂ (fun p e => StandsAt p.1.path p.2.name p.2.first p.2.last e ∧
      (e.role = .entrypoint ↔
        p.1.path = file.path ∧ inProgramModule file.text p.2 = true)) ps functions := by
    apply hdescribes.imp
    rintro p e ⟨hp, hpe⟩
    exact ⟨⟨hpe.path, hpe.name, hpe.first, hpe.last⟩, hpe.role_eq_entrypoint_iff hfiles hfile hp⟩
  have hstored : List.Forall₂ (fun p q => StandsAt file.path p.name p.first p.last q) entrypoints
      (functions.filter (·.role == .entrypoint)) := by
    apply forall₂_trans _ hfound.flip (List.rel_filter _ hstands)
    · rintro q p e ⟨rfl, hname, hfirst, hlast⟩ ⟨he, -⟩
      rw [hname, hfirst, hlast]
      exact he
    · rintro p e ⟨-, hrole⟩
      dsimp only
      rw [beq_iff_eq, hrole, Bool.and_eq_true, beq_iff_eq]
  refine ⟨ps, functions, entrypoints, _, answer_all_of_remembers hfunctions, hps, hstands,
    answer_query_of_remembers hfunctions none (some .entrypoint), hentrypoints, ?_, ?_⟩
  · apply (hentrypoints.map _).nodup_iff.2 (Source.nodup_first_entrypoints file.text)
  · simpa using hstored

/-- A library file with functions of one name in front of its program module and inside it. -/
def bankFile : SourceFile :=
  ⟨"programs/bank/src/lib.rs",
    "fn pay() \x7b\x7d\n#[program]\nmod bank \x7b\nfn pay() \x7b\x7d\n\x7d\n"⟩

/-- A session that scans the functions of this file. -/
def bankSession : State :=
  State.start
    ⟨"/", .folder [("m", .folder []), ("programs", .folder [("bank", .folder
      [("src", .folder [("lib.rs", .file (.text bankFile.text))])])])]⟩
    (.after 0)
    { Settings.standard with
      metadata := ⟨"m"⟩
      scan := { Settings.standard.scan with kinds := [.function] } }

theorem entrypoints_after_scan_bankSession :
  let s := after scan bankSession
  ∃ summary found functions stored,
    bankSession.store.disk.tree.isProper = true ∧ run scan bankSession = (.ok summary, s)
    ∧ bankSession.walk = .ok found ∧ bankFile ∈ found.files
    ∧ bankSession.settings.libPath? bankSession.store.disk = .ok (some bankFile.path)
    ∧ Kind.function ∈ bankSession.settings.scan.kinds
    ∧ answer (onStore (Store.all .function)) s = .ok functions ∧ functions.length = 2
    ∧ answer (onStore (Store.query .function none (some .entrypoint))) s = .ok stored
    ∧ List.Forall₂ (fun line e => StandsAt bankFile.path "pay" line line e) [4] stored
  := by
  intro s
  have hfacts : bankSession.store.disk.tree.isProper = true
      ∧ (answer scan bankSession).toOption.isSome = true
      ∧ bankSession.walk.toOption.map (·.files) = some [bankFile]
      ∧ (bankSession.settings.libPath? bankSession.store.disk).toOption.map id
        = some (some bankFile.path)
      ∧ (rangesIn [bankFile] .function).length = 2
      ∧ Source.entrypoints bankFile.text = [⟨"pay", 4, 4, none⟩] := by
    decide +kernel
  obtain ⟨hproper, hscan, hwalk, hlib, hlength, hentrypoints⟩ := hfacts
  obtain ⟨found, hwalk, hfiles⟩ := exists_of_map_toOption hwalk
  obtain ⟨summary, hrun⟩ := exists_run_of_isSome hscan
  have hfile : bankFile ∈ found.files := by simp [hfiles]
  obtain ⟨_, hlib, rfl⟩ := exists_of_map_toOption hlib
  have hkind : Kind.function ∈ bankSession.settings.scan.kinds := List.mem_cons_self
  obtain ⟨ps, functions, entrypoints, stored, hall, hps, hfunctions, hquery, hperm, -, hstored⟩ :=
    entrypoints_after_scan hproper hrun hwalk hfile hlib hkind
  rw [hentrypoints, List.perm_singleton] at hperm
  rw [hperm] at hstored
  refine ⟨summary, found, functions, stored, hproper, hrun, hwalk, hfile, hlib, hkind, hall, ?_,
    hquery, ?_⟩
  · rw [← hfunctions.length_eq, hps.length_eq, hfiles, hlength]
  · cases hstored with
    | cons he hrest => exact .cons he (by cases hrest; exact .nil)

end Session

end AnchorIndex
