import EdgeSession.Config.Flush
import Mathlib.Algebra.GroupWithZero.Nat
import Mathlib.Data.List.Basic

/-!
What a reader of the configuration file finds while it is being flushed. As long as no flush begins
while another is under way, it is a whole text at every moment. All flushes share the one temporary
file; so one that begins beside another spoils what the other puts in place.
-/
namespace EdgeSession.Config

namespace Folder

/-- Every file that has a name was made, and has no other. -/
structure Sound (f : Folder) : Prop where
  made {name : String} {file : Nat} : f.names name = some file → file < f.next
  single {a b : String} {file : Nat} : f.names a = some file → f.names b = some file → a = b

/-- A file that was made and does not go by this name. -/
structure Aside (name : String) (file : Nat) (f : Folder) : Prop where
  made : file < f.next
  unnamed : f.names name ≠ some file

/-- A folder once a name stands for an empty file. -/
structure Emptied (name : String) (f : Folder) (file : Nat) (g : Folder) : Prop where
  sound : g.Sound
  named : g.names name = some file
  bytes : g.files file = []
  others {other : String} : other ≠ name → g.names other = f.names other
  aside {kept : Nat} : Aside name kept f → Aside name kept g ∧ g.files kept = f.files kept

section
variable {f g : Folder} {name other old new : String} {file kept position : Nat}
  {piece bytes text : Bytes}

/-! ## Bytes -/

theorem overwrite_end (bytes piece : Bytes) :
    overwrite bytes.length piece bytes = bytes ++ piece := by
  unfold overwrite
  split
  · rename_i nothing
    rw [nothing, List.append_nil]
  · rw [List.take_length, Nat.sub_self, List.replicate_zero, List.append_nil,
      List.drop_eq_nil_of_le (Nat.le_add_right _ _), List.append_nil]

/-- What is written behind the start of an empty file begins with zeros. -/
theorem overwrite_nil (position : Nat) (nonempty : piece ≠ []) :
    overwrite position piece [] = List.replicate position 0 ++ piece := by
  simp [overwrite, nonempty]

/-- The next piece of a text, behind what is written of it. -/
theorem overwrite_take {written : Nat} (within : written ≤ text.length) (n : Nat) :
    overwrite written ((text.drop written).take n) (text.take written) =
      text.take (written + ((text.drop written).take n).length) := by
  have front : (text.take written).length = written := List.length_take_of_le within
  have appended := overwrite_end (text.take written) ((text.drop written).take n)
  rw [front] at appended
  rw [appended, List.take_add]
  simp

/-! ## Names -/

theorem Sound.aside (h : f.Sound) (named : f.names other = some kept) (apart : other ≠ name) :
    Aside name kept f :=
  ⟨h.made named, fun same => apart (h.single named same)⟩

theorem Emptied.content? (h : Emptied name f file g) (sound : f.Sound) (apart : other ≠ name) :
    g.content? other = f.content? other := by
  simp only [Folder.content?, h.others apart]
  cases named : f.names other with
  | none => rfl
  | some kept => exact congrArg some (h.aside (sound.aside named apart)).2

/-- A name for one more file. -/
theorem Sound.named (h : f.Sound) {file next : Nat} (made : file < next) (grows : f.next ≤ next)
    (fresh : ∀ a, a ≠ name → f.names a ≠ some file) (files : Nat → Bytes) :
    Sound { names := Function.update f.names name (some file), files, next } := by
  constructor
  · intro a k there
    dsimp only at there
    by_cases same : a = name
    · rw [same, Function.update_self] at there
      cases there
      exact made
    · rw [Function.update_of_ne same] at there
      exact Nat.lt_of_lt_of_le (h.made there) grows
  · intro a b k first second
    dsimp only at first second
    have only {c : String} (named : Function.update f.names name (some file) c = some k)
        (other : c ≠ name) : f.names c = some k ∧ k ≠ file := by
      rw [Function.update_of_ne other] at named
      exact ⟨named, fun same => fresh c other (same ▸ named)⟩
    by_cases sameA : a = name <;> by_cases sameB : b = name
    · rw [sameA, sameB]
    · rw [sameA, Function.update_self] at first
      exact absurd (Option.some.inj first).symm (only second sameB).2
    · rw [sameB, Function.update_self] at second
      exact absurd (Option.some.inj second).symm (only first sameA).2
    · exact h.single (only first sameA).1 (only second sameB).1

theorem Sound.empty (h : f.Sound) (name : String) :
    Emptied name f (f.empty name).1 (f.empty name).2 := by
  cases there : f.names name with
  | some file =>
    simp only [Folder.empty, there]
    refine ⟨⟨h.made, h.single⟩, there, Function.update_self .., fun _ => rfl,
      fun {kept} aside => ?_⟩
    have other : kept ≠ file := fun same => aside.unnamed (same ▸ there)
    exact ⟨⟨aside.made, aside.unnamed⟩, Function.update_of_ne other ..⟩
  | none =>
    simp only [Folder.empty, there]
    refine ⟨h.named (Nat.lt_succ_self _) (Nat.le_succ _) (fun a _ named => ?_) _,
      Function.update_self .., Function.update_self .., fun apart => Function.update_of_ne apart ..,
      fun {kept} aside => ?_⟩
    · exact absurd (h.made named) (Nat.lt_irrefl _)
    · have other : kept ≠ f.next := Nat.ne_of_lt aside.made
      refine ⟨⟨Nat.lt_succ_of_lt aside.made, ?_⟩, Function.update_of_ne other ..⟩
      simpa using other.symm

theorem Sound.write (h : f.Sound) (file position : Nat) (piece : Bytes) :
    (f.write file position piece).Sound := ⟨h.made, h.single⟩

theorem files_write (f : Folder) (file position : Nat) (piece : Bytes) :
    (f.write file position piece).files file = overwrite position piece (f.files file) :=
  Function.update_self ..

theorem files_write_other (apart : kept ≠ file) (f : Folder) (position : Nat) (piece : Bytes) :
    (f.write file position piece).files kept = f.files kept := Function.update_of_ne apart ..

theorem content?_write_other (h : f.Sound) (named : f.names name = some file)
    (apart : other ≠ name) (position : Nat) (piece : Bytes) :
    (f.write file position piece).content? other = f.content? other := by
  show (f.names other).map _ = (f.names other).map _
  cases there : f.names other with
  | none => rfl
  | some kept =>
    have distinct : kept ≠ file := fun same => apart (h.single there (same ▸ named))
    exact congrArg some (files_write_other distinct f position piece)

/-- A file under its new name. -/
def renamed (old new : String) (file : Nat) (f : Folder) : Folder :=
  { f with names := Function.update (Function.update f.names old none) new (some file) }

theorem rename?_named (named : f.names old = some file) :
    f.rename? old new = some (f.renamed old new file) := by
  rw [rename?, named]
  rfl

theorem Sound.unnamed (h : f.Sound) (name : String) :
    Sound { f with names := Function.update f.names name none } := by
  have still {a : String} {k : Nat} (named : Function.update f.names name none a = some k) :
      f.names a = some k := by
    by_cases same : a = name
    · rw [same, Function.update_self] at named
      cases named
    · rwa [Function.update_of_ne same] at named
  exact ⟨fun named => h.made (still named), fun a b => h.single (still a) (still b)⟩

theorem Sound.renamed (h : f.Sound) (named : f.names old = some file) (new : String) :
    (f.renamed old new file).Sound := by
  refine (h.unnamed old).named (h.made named) (Nat.le_refl _) (fun a _ there => ?_) f.files
  by_cases same : a = old
  · simp [same] at there
  · exact same (h.single (by simpa [same] using there) named)

theorem content?_renamed (f : Folder) (old new : String) (file : Nat) :
    (f.renamed old new file).content? new = some (f.files file) := by
  simp only [Folder.content?, Folder.renamed, Function.update_self]
  rfl

theorem Aside.renamed (h : Aside old kept f) (apart : new ≠ old) (file : Nat) :
    Aside old kept (f.renamed old new file) := by
  refine ⟨h.made, ?_⟩
  simp [Folder.renamed, Function.update_of_ne apart.symm]

end
end Folder

/-- Whether a flush is under way. -/
def Flushing.isWriting : Flushing → Bool
  | .writing .. => true
  | _ => false

theorem draftOf_ne (path : String) : path ≠ draftOf path := by
  intro same
  have length := congrArg String.length same
  simp [draftOf] at length

namespace Flushes

/-- The process that takes a step. -/
def Move.process : Move → Nat
  | begin process _ => process
  | write process _ => process
  | place process => process
  | giveUp process => process
  | die process => process

/-- What a step comes to: nothing, or a next stage of the process that takes it, with what that does
to the folder. -/
inductive Effect (path : String) (w : Flushes) : Move → Flushes → Prop
  | none {move : Move} : Effect path w move w
  | begun {p : Nat} {text : String} (rests : w.processes p = .resting) :
    Effect path w (.begin p text)
      ({ w with folder := (w.folder.empty (draftOf path)).2 }.put p
        (.writing (w.folder.empty (draftOf path)).1 (Utf8.encode text) 0))
  | wrote {p length file written : Nat} {text : Bytes}
      (writes : w.processes p = .writing file text written) :
    Effect path w (.write p length)
      ({ w with folder := w.folder.write file written ((text.drop written).take length) }.put p
        (.writing file text (written + ((text.drop written).take length).length)))
  | placed {p file written : Nat} {text : Bytes} {folder : Folder}
      (writes : w.processes p = .writing file text written) (whole : text.length ≤ written)
      (renamed : w.folder.rename? (draftOf path) path = some folder) :
    Effect path w (.place p) ({ w with folder, placed := w.placed ++ [text] }.put p .resting)
  | refused {p file written : Nat} {text : Bytes}
      (writes : w.processes p = .writing file text written)
      (gone : w.folder.rename? (draftOf path) path = Option.none) :
    Effect path w (.place p) ({ w with refused := w.refused ++ [p] }.put p .resting)
  | givenUp {p : Nat} : Effect path w (.giveUp p) (w.put p .resting)
  | died {p : Nat} : Effect path w (.die p) (w.put p .dead)

/-- No flush is under way but that of this process. -/
def Alone (process : Nat) (w : Flushes) : Prop :=
  ∀ other, other ≠ process → (w.processes other).isWriting = false

/-- No flush begins while that of another process is under way. One whose process is dead is not. -/
def Apart (path : String) : List Move → Flushes → Prop
  | [], _ => True
  | move :: moves, w =>
    (∀ process text, move = .begin process text → w.Alone process) ∧
      Apart path moves (w.step path move)

/-- The temporary file of a flush holds what is written of its text. -/
structure Drafted (path : String) (f : Folder) (file : Nat) (text : Bytes) (written : Nat) :
    Prop where
  named : f.names (draftOf path) = some file
  within : written ≤ text.length
  bytes : f.files file = text.take written

/-- What is known while flushes do not overlap: at most one is under way, and the configuration file
holds the text that was put in place last. -/
structure Orderly (path : String) (original : Option Bytes) (w : Flushes) : Prop where
  sound : w.folder.Sound
  sole {p q : Nat} : (w.processes p).isWriting = true → (w.processes q).isWriting = true → p = q
  drafted {p file : Nat} {text : Bytes} {written : Nat} :
    w.processes p = .writing file text written → Drafted path w.folder file text written
  content : w.folder.content? path = w.placed.getLast?.or original
  unrefused : w.refused = []

section
variable {path : String} {original : Option Bytes} {w u : Flushes} {p q file kept written : Nat}
  {text : Bytes} {stage : Flushing} {move : Move} {moves : List Move}

/-! ## One step -/

theorem put_self (p : Nat) (stage : Flushing) (w : Flushes) :
    (w.put p stage).processes p = stage := Function.update_self ..

theorem put_other (apart : q ≠ p) (stage : Flushing) (w : Flushes) :
    (w.put p stage).processes q = w.processes q := Function.update_of_ne apart ..

theorem step_effect (path : String) (w : Flushes) (move : Move) :
    Effect path w move (w.step path move) := by
  cases move with
  | begin p text =>
    simp only [step, begin]
    split
    · exact .begun ‹_›
    · exact .none
  | write p length =>
    simp only [step, write]
    split
    · exact .wrote ‹_›
    · exact .none
  | place p =>
    simp only [step, place]
    split
    · split
      · exact .none
      · split
        · exact .placed ‹_› (Nat.not_lt.1 ‹_›) ‹_›
        · exact .refused ‹_› ‹_›
    · exact .none
  | giveUp p =>
    simp only [step, giveUp]
    split
    · exact .givenUp
    · exact .none
  | die p => exact .died

/-- A step changes no process but the one that takes it. -/
theorem Effect.others (effect : Effect path w move u) (apart : q ≠ move.process) :
    u.processes q = w.processes q := by
  cases effect with
  | none => rfl
  | begun | wrote | placed | refused | givenUp | died => exact put_other apart ..

theorem Orderly.alone (h : Orderly path original w)
    (writes : w.processes p = .writing file text written) : w.Alone p := by
  intro q apart
  refine Bool.eq_false_iff.2 fun others => apart (h.sole others ?_)
  rw [writes]
  rfl

/-- A process rests or dies. -/
theorem Orderly.put (h : Orderly path original w) (idle : stage.isWriting = false) (p : Nat) :
    Orderly path original (w.put p stage) := by
  have still {q : Nat} (writes : ((w.put p stage).processes q).isWriting = true) :
      (w.put p stage).processes q = w.processes q := by
    by_cases same : q = p
    · rw [same, put_self, idle] at writes
      cases writes
    · exact put_other same ..
  refine ⟨h.sound, fun first second => ?_, fun writes => ?_, h.content, h.unrefused⟩
  · exact h.sole (still first ▸ first) (still second ▸ second)
  · exact h.drafted ((still (by rw [writes]; rfl)).symm.trans writes)

/-- The one process that writes, or begins to, leaves a folder behind. -/
theorem Orderly.turn (h : Orderly path original w) (alone : w.Alone p) {g : Folder}
    {placed : List Bytes} (sound : g.Sound)
    (drafted : ∀ file text written, stage = .writing file text written →
      Drafted path g file text written)
    (content : g.content? path = placed.getLast?.or original) :
    Orderly path original ({ w with folder := g, placed }.put p stage) := by
  have only {q : Nat}
      (writes : (({ w with folder := g, placed }.put p stage).processes q).isWriting = true) :
      q = p := by
    by_contra apart
    rw [put_other apart, alone q apart] at writes
    cases writes
  refine ⟨sound, fun first second => (only first).trans (only second).symm,
    fun {q} _ _ _ writes => ?_, content, h.unrefused⟩
  have same : q = p := only (by rw [writes]; rfl)
  rw [same, put_self] at writes
  exact drafted _ _ _ writes

/-- A flush that begins only beside dead ones keeps everything in order. -/
theorem Orderly.step (h : Orderly path original w) (effect : Effect path w move u)
    (apart : ∀ p text, move = .begin p text → w.Alone p) : Orderly path original u := by
  cases effect with
  | none => exact h
  | begun rests =>
    have emptied := h.sound.empty (draftOf path)
    refine h.turn (apart _ _ rfl) emptied.sound (fun file text written writes => ?_) ?_
    · cases writes
      exact ⟨emptied.named, Nat.zero_le _, emptied.bytes⟩
    · exact (emptied.content? h.sound (draftOf_ne path)).trans h.content
  | wrote writes =>
    obtain ⟨named, within, bytes⟩ := h.drafted writes
    refine h.turn (h.alone writes) (h.sound.write ..) (fun file text written stage => ?_) ?_
    · cases stage
      refine ⟨named, ?_, ?_⟩
      · rw [List.length_take, List.length_drop]
        omega
      · rw [Folder.files_write, bytes, Folder.overwrite_take within]
    · exact (Folder.content?_write_other h.sound named (draftOf_ne path) ..).trans h.content
  | placed writes whole renamed =>
    obtain ⟨named, -, bytes⟩ := h.drafted writes
    rw [Folder.rename?_named named] at renamed
    cases renamed
    refine h.turn (h.alone writes) (h.sound.renamed named path) nofun ?_
    rw [Folder.content?_renamed, bytes, List.take_of_length_le whole, List.getLast?_concat,
      Option.some_or]
  | refused writes gone =>
    -- No other process has taken its temporary file away.
    rw [Folder.rename?_named (h.drafted writes).named] at gone
    cases gone
  | givenUp | died => exact h.put rfl _

/-- A file that is not the temporary one is left alone. -/
theorem Orderly.step_aside (h : Orderly path original w) (effect : Effect path w move u)
    (aside : Folder.Aside (draftOf path) kept w.folder) :
    Folder.Aside (draftOf path) kept u.folder ∧ u.folder.files kept = w.folder.files kept := by
  cases effect with
  | begun rests => exact (h.sound.empty (draftOf path)).aside aside
  | wrote writes =>
    have apart : kept ≠ _ := fun same => aside.unnamed (same ▸ (h.drafted writes).named)
    exact ⟨⟨aside.made, aside.unnamed⟩, Folder.files_write_other apart ..⟩
  | placed writes whole renamed =>
    rw [Folder.rename?_named (h.drafted writes).named] at renamed
    cases renamed
    exact ⟨aside.renamed (draftOf_ne path) _, rfl⟩
  | none | refused | givenUp | died => exact ⟨aside, rfl⟩

/-! ## Runs -/

theorem run_append (front back : List Move) (w : Flushes) :
    run path (front ++ back) w = run path back (run path front w) := List.foldl_append

theorem apart_append {front back : List Move} :
    Apart path (front ++ back) w ↔ Apart path front w ∧ Apart path back (run path front w) := by
  induction front generalizing w with
  | nil => simp [Apart, run]
  | cons move front ih =>
    simp only [List.cons_append, Apart, ih, and_assoc]
    rfl

/-- The steps of one process beside which no other flush is under way. -/
theorem apart_of_alone (alone : w.Alone p) (own : ∀ move ∈ moves, move.process = p) :
    Apart path moves w := by
  induction moves generalizing w with
  | nil => trivial
  | cons move moves ih =>
    obtain ⟨mine, others⟩ := List.forall_mem_cons.1 own
    refine ⟨fun process text same => ?_, ih (fun q apart => ?_) others⟩
    · subst same
      cases mine
      exact alone
    · rw [(step_effect path w move).others (mine ▸ apart)]
      exact alone q apart

/-- A process that takes no step stays where it is. -/
theorem run_other (others : ∀ move ∈ moves, q ≠ move.process) (path : String) (w : Flushes) :
    (run path moves w).processes q = w.processes q := by
  induction moves generalizing w with
  | nil => rfl
  | cons move moves ih =>
    obtain ⟨first, rest⟩ := List.forall_mem_cons.1 others
    exact (ih rest _).trans ((step_effect path w move).others first)

theorem Orderly.start {folder : Folder} (sound : folder.Sound) (path : String) :
    Orderly path (folder.content? path) { folder } :=
  ⟨sound, nofun, nofun, rfl, rfl⟩

theorem Orderly.run (h : Orderly path original w) (apart : Apart path moves w) :
    Orderly path original (run path moves w) := by
  induction moves generalizing w with
  | nil => exact h
  | cons move moves ih => exact ih (h.step (step_effect ..) apart.1) apart.2

theorem Orderly.run_aside (h : Orderly path original w) (apart : Apart path moves w)
    (aside : Folder.Aside (draftOf path) kept w.folder) :
    (Flushes.run path moves w).folder.files kept = w.folder.files kept := by
  induction moves generalizing w with
  | nil => rfl
  | cons move moves ih =>
    have effect := step_effect path w move
    obtain ⟨still, same⟩ := h.step_aside effect aside
    exact (ih (h.step effect apart.1) apart.2 still).trans same

/-- Every text that is being written or in place is one of these. -/
structure Told (texts : Bytes → Prop) (w : Flushes) : Prop where
  placed : ∀ text ∈ w.placed, texts text
  writing {p file : Nat} {text : Bytes} {written : Nat} :
    w.processes p = .writing file text written → texts text

theorem Told.turn {texts : Bytes → Prop} (h : Told texts w) {folder : Folder}
    {placed : List Bytes} {refused : List Nat} (old : ∀ text ∈ placed, texts text)
    (new : ∀ file text written, stage = .writing file text written → texts text) (p : Nat) :
    Told texts ({ w with folder, placed, refused }.put p stage) := by
  refine ⟨old, fun {q} _ _ _ writes => ?_⟩
  by_cases same : q = p
  · rw [same, put_self] at writes
    exact new _ _ _ writes
  · rw [put_other same] at writes
    exact h.writing writes

theorem Told.step {texts : Bytes → Prop} (h : Told texts w) (effect : Effect path w move u)
    (told : ∀ p text, move = .begin p text → texts (Utf8.encode text)) : Told texts u := by
  have idle {stage : Flushing} (ended : stage.isWriting = false) :
      ∀ file text written, stage = .writing file text written → texts text := by
    rintro _ _ _ rfl
    cases ended
  cases effect with
  | none => exact h
  | begun =>
    refine h.turn h.placed (fun file text written stage => ?_) _
    cases stage
    exact told _ _ rfl
  | wrote writes =>
    refine h.turn h.placed (fun file text written stage => ?_) _
    cases stage
    exact h.writing writes
  | placed writes =>
    refine h.turn (fun text mem => ?_) (idle rfl) _
    obtain old | new := List.mem_append.1 mem
    · exact h.placed text old
    · exact List.mem_singleton.1 new ▸ h.writing writes
  | refused | givenUp | died => exact h.turn h.placed (idle rfl) _

theorem Told.run {texts : Bytes → Prop} (h : Told texts w)
    (told : ∀ p text, .begin p text ∈ moves → texts (Utf8.encode text)) :
    Told texts (run path moves w) := by
  induction moves generalizing w with
  | nil => exact h
  | cons move moves ih =>
    refine ih (h.step (step_effect path w move) fun p text same => ?_) fun p text mem => ?_
    · exact told p text (same ▸ List.mem_cons_self)
    · exact told p text (List.mem_cons_of_mem _ mem)

/-! ## One flush -/

theorem run_writes (writes : w.processes p = .writing file text written)
    (within : written ≤ text.length) (pieces : List Nat) :
    (run path (pieces.map (.write p)) w).processes p =
      .writing file text (min (written + pieces.sum) text.length) := by
  induction pieces generalizing w written with
  | nil => simpa [run, Nat.min_eq_left within] using writes
  | cons n pieces ih =>
    have next : (w.step path (.write p n)).processes p =
        .writing file text (written + ((text.drop written).take n).length) := by
      simp only [step, Flushes.write, writes, put_self]
    have grown : written + ((text.drop written).take n).length ≤ text.length := by
      rw [List.length_take, List.length_drop]
      omega
    rw [List.map_cons, run, List.foldl_cons]
    refine (ih next grown).trans ?_
    rw [List.length_take, List.length_drop, List.sum_cons]
    congr 1
    omega

/-- What is in the temporary file is put in place, and the process rests. -/
theorem place_whole (writes : w.processes p = .writing file text written)
    (named : w.folder.names (draftOf path) = some file) (whole : text.length ≤ written) :
    (w.place path p).folder.content? path = some (w.folder.files file) ∧
      (w.place path p).processes p = .resting := by
  simp only [Flushes.place, writes, if_neg (Nat.not_lt.2 whole), Folder.rename?_named named]
  exact ⟨Folder.content?_renamed .., put_self ..⟩

/-- The steps of a flush up to where the file is whole. -/
def drafting (process : Nat) (text : String) (pieces : List Nat) : List Move :=
  .begin process text :: pieces.map (.write process)

theorem process_of_mem_drafting {text : String} {pieces : List Nat}
    (mem : move ∈ drafting p text pieces) : move.process = p := by
  obtain rfl | mem := List.mem_cons.1 mem
  · rfl
  · obtain ⟨n, -, rfl⟩ := List.mem_map.1 mem
    rfl

/-- The steps of a flush beside which no other is under way put its text in place, whatever the
pieces that it is written in. -/
theorem flush_alone (h : Orderly path original w) (rests : w.processes p = .resting)
    (alone : w.Alone p) (text : String) {pieces : List Nat}
    (all : (Utf8.encode text).length ≤ pieces.sum) :
    let after := run path (drafting p text pieces ++ [.place p]) w
    after.folder.content? path = some (Utf8.encode text) ∧ after.processes p = .resting := by
  intro after
  have begins : (w.step path (.begin p text)).processes p =
      .writing (w.folder.empty (draftOf path)).1 (Utf8.encode text) 0 := by
    simp only [step, Flushes.begin, rests, put_self]
  have ran : (run path (drafting p text pieces) w).processes p =
      .writing _ (Utf8.encode text) (min (0 + pieces.sum) (Utf8.encode text).length) :=
    run_writes begins (Nat.zero_le _) pieces
  rw [Nat.zero_add, Nat.min_eq_right all] at ran
  have own : ∀ move ∈ drafting p text pieces, move.process = p := fun _ => process_of_mem_drafting
  obtain ⟨named, -, bytes⟩ := (h.run (apart_of_alone alone own)).drafted ran
  obtain ⟨content, resting⟩ := place_whole ran named (Nat.le_refl _)
  have last : after = (run path (drafting p text pieces) w).place path p := run_append ..
  rw [List.take_length] at bytes
  rw [last, content, bytes]
  exact ⟨rfl, resting⟩

/-! ## Two flushes -/

/-- The text of a store begins with its brace. -/
theorem head_flush {s : Store} {text : String} (h : s.flush? = some text) :
    (Utf8.encode text).head? = some 0x7B := by
  simp only [Store.flush?, Json.pretty?] at h
  split at h
  · cases h
    rw [Utf8.encode, Json.pretty, String.toList_ofList]
    rfl
  · cases h

/-- A flush that begins empties the file that another is writing. -/
theorem Orderly.begin_over (h : Orderly path original w)
    (writes : w.processes p = .writing file text written) (rests : w.processes q = .resting)
    (other : String) :
    (w.begin path q other).processes p = .writing file text written ∧
      (w.begin path q other).folder.names (draftOf path) = some file ∧
      (w.begin path q other).folder.files file = [] := by
  have named := (h.drafted writes).named
  have apart : p ≠ q := by
    rintro rfl
    rw [writes] at rests
    cases rests
  simp only [Flushes.begin, rests, Folder.empty, named]
  exact ⟨(put_other apart ..).trans writes, named, Function.update_self ..⟩

/-- The rest of a text, written at its place into a file that was emptied, and put in place. -/
theorem finish_emptied (writes : w.processes p = .writing file text written)
    (named : w.folder.names (draftOf path) = some file) (emptied : w.folder.files file = []) :
    (run path [.write p text.length, .place p] w).folder.content? path =
      some (Folder.overwrite written (text.drop written) []) := by
  have rest : (text.drop written).take text.length = text.drop written :=
    List.take_of_length_le (by rw [List.length_drop]; omega)
  have done : (w.write p text.length).processes p =
      .writing file text (written + (text.drop written).length) := by
    simp only [Flushes.write, writes, rest]
    exact put_self ..
  have bytes : (w.write p text.length).folder.files file =
      Folder.overwrite written (text.drop written) [] := by
    simp only [Flushes.write, writes, rest]
    exact (Folder.files_write ..).trans (by rw [emptied])
  have still : (w.write p text.length).folder.names (draftOf path) = some file := by
    simp only [Flushes.write, writes]
    exact named
  have whole : text.length ≤ written + (text.drop written).length := by
    rw [List.length_drop]
    omega
  exact (place_whole done still whole).1.trans (congrArg some bytes)

/-- If one whose file was emptied by another is left to finish, what it has written before is
missing, and zeros stand in its place. -/
theorem Orderly.overlap (h : Orderly path original w)
    (writes : w.processes p = .writing file text written) (rests : w.processes q = .resting)
    (other : String) :
    (Flushes.run path [.begin q other, .write p text.length, .place p] w).folder.content? path =
      some (Folder.overwrite written (text.drop written) []) := by
  obtain ⟨still, named, emptied⟩ := h.begin_over writes rests other
  exact finish_emptied still named emptied

/-- Bytes that some store's text fills. -/
def IsText (bytes : Bytes) : Prop :=
  ∃ s text, Store.flush? s = some text ∧ bytes = Utf8.encode text

/-- Behind zeros, or with nothing in it, a file is no store's text. -/
theorem isText_overwrite_iff {s : Store} {text : String} (h : s.flush? = some text) :
    IsText (Folder.overwrite written ((Utf8.encode text).drop written) []) ↔ written = 0 := by
  constructor
  · rintro ⟨other, otherText, flushed, same⟩
    have head := head_flush flushed
    rw [← same] at head
    by_contra nonzero
    by_cases rest : (Utf8.encode text).drop written = []
    · rw [rest] at head
      cases head
    · obtain ⟨k, rfl⟩ := Nat.exists_eq_succ_of_ne_zero nonzero
      rw [Folder.overwrite_nil _ rest, List.replicate_succ] at head
      cases head
  · rintro rfl
    exact ⟨s, text, h, Folder.overwrite_end [] _⟩

/-- **Flushes replace the file whole as long as they do not overlap.** In every order of their steps
in which none begins while another is under way, wherever a process stops, the configuration file is
at every moment what it was at first, or the whole text of the flush that was renamed last; no
rename is refused; and the file that a reader has opened is not written to any more. But a flush
that begins while another has written some of its text spoils it: if that one is left to finish, it
puts in place what is no store's text. -/
theorem flushes_whole {path : String} {folder : Folder} (sound : folder.Sound) {moves : List Move}
    (apart : Apart path moves { folder }) :
    let w := run path moves { folder }
    (w.folder.content? path = folder.content? path ∨
      ∃ p text, .begin p text ∈ moves ∧ w.folder.content? path = some (Utf8.encode text)) ∧
    w.folder.content? path = w.placed.getLast?.or (folder.content? path) ∧
    w.refused = [] ∧
    (∀ later file, Apart path later w → w.folder.names path = some file →
      (run path later w).folder.files file = w.folder.files file) ∧
    ∀ p q file s text written other, Store.flush? s = some text →
      w.processes p = .writing file (Utf8.encode text) written → w.processes q = .resting →
      ∃ bytes, (run path [.begin q other, .write p (Utf8.encode text).length, .place p]
        w).folder.content? path = some bytes ∧ (IsText bytes ↔ written = 0) := by
  intro w
  have orderly : Orderly path (folder.content? path) w := (Orderly.start sound path).run apart
  refine ⟨?_, orderly.content, orderly.unrefused, fun later file others named => ?_,
    fun p q file s text written other flushed writes rests => ?_⟩
  · have told : Told (fun bytes => ∃ p text, .begin p text ∈ moves ∧ bytes = Utf8.encode text) w :=
      Told.run ⟨nofun, nofun⟩ fun p text mem => ⟨p, text, mem, rfl⟩
    rw [orderly.content]
    cases last : w.placed.getLast? with
    | none => exact .inl rfl
    | some bytes =>
      obtain ⟨p, text, mem, rfl⟩ := told.placed bytes (List.mem_of_getLast? last)
      exact .inr ⟨p, text, mem, rfl⟩
  · exact orderly.run_aside others (orderly.sound.aside named (draftOf_ne path))
  · exact ⟨_, orderly.overlap writes rests other, isText_overwrite_iff flushed⟩

end

/-- A process dies in the middle of its text, over the remains of another that did; and then a third
one flushes in two pieces. -/
theorem flushes_whole_after_crash :
    let folder : Folder :=
      { names := fun name => if name = "c" then some 0 else if name = "c.tmp" then some 1 else none
        files := fun file => if file = 0 then Utf8.encode "\x7b\x7d" else [0x7B], next := 2 }
    let text := Store.fileText {}
    let crash := drafting 0 text [10] ++ [.die 0]
    let moves := crash ++ (drafting 1 text [20, 1000] ++ [.place 1])
    folder.Sound ∧ Apart "c" moves { folder } ∧
      (run "c" moves { folder }).folder.content? "c" = some (Utf8.encode text) := by
  intro folder text crash moves
  have sound : folder.Sound := by
    constructor
    · intro name file named
      simp only [folder] at named ⊢
      grind
    · intro a b file first second
      simp only [folder] at first second
      grind
  have own (last : Move) (pieces : List Nat) :
      ∀ move ∈ drafting last.process text pieces ++ [last], move.process = last.process := by
    intro move mem
    obtain front | back := List.mem_append.1 mem
    · exact process_of_mem_drafting front
    · rw [List.mem_singleton.1 back]
  have crashed : (run "c" crash { folder }).Alone 1 := by
    intro other _
    by_cases zero : other = 0
    · rw [zero, run_append]
      exact congrArg Flushing.isWriting (put_self 0 .dead _)
    · rw [run_other fun move mem => (own (.die 0) [10] move mem).symm ▸ zero]
      rfl
  have apart : Apart "c" moves { folder } := apart_append.2
    ⟨apart_of_alone (fun _ _ => rfl) (own (.die 0) [10]),
      apart_of_alone crashed (own (.place 1) [20, 1000])⟩
  refine ⟨sound, apart, (flushes_whole sound apart).2.1.trans ?_⟩
  decide +kernel

/-- Two processes whose flushes overlap: both come to their end, and what they leave can no longer
be read. -/
theorem torn_by_two :
    let original : Store := { defaultNamespace := .str "" }
    let long : Store := { defaultNamespace := .str "elsewhere" }
    let short : Store := {}
    let folder : Folder :=
      { names := fun name => if name = "c" then some 0 else none
        files := fun _ => Utf8.encode original.fileText, next := 1 }
    let moves := drafting 0 long.fileText [1] ++ drafting 1 short.fileText [] ++
      [.write 0 1000, .place 0, .write 1 1000, .place 1]
    let w := run "c" moves { folder }
    let torn := short.fileText ++ String.ofList (long.fileText.toList.drop short.fileText.length)
    long.flush? = some long.fileText ∧ short.flush? = some short.fileText ∧
      w.processes 0 = .resting ∧ w.processes 1 = .resting ∧ w.refused = [1] ∧
      w.folder.content? "c" = some (Utf8.encode torn) ∧
      w.folder.content? "c" ∉ [folder.content? "c", some (Utf8.encode long.fileText),
        some (Utf8.encode short.fileText)] ∧
      (Store.load (some torn)).toOption = none := by
  decide +kernel

end Flushes
end EdgeSession.Config
