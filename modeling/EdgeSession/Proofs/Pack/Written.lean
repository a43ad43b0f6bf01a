import EdgeSession.Proofs.Except
import EdgeSession.Proofs.Pack.Headers
import EdgeSession.Proofs.Utf8

/-!
The written forms of MessagePack values, as a grammar of its own: every width of every kind, maps
with their pairs in any order, and containers in containers up to a depth. The reader accepts
exactly what the grammar derives. Its limits on announced counts refuse nothing more, since whatever
is announced also has to stand there.
-/
namespace EdgeSession.Pack

/-- The three written forms of a time stamp: seconds alone; nanoseconds in the upper 30 bits and
seconds in the lower 34; nanoseconds and then signed seconds. -/
inductive Stamp : Int → Nat → Bytes → Prop
  | seconds {data : Bytes} (h : data.length = 4) : Stamp (Bytes.toNat data) 0 data
  | packed {data : Bytes} (h : data.length = 8)
      (bound : Bytes.toNat data / 0x400000000 < 1000000000) :
      Stamp (Bytes.toNat data % 0x400000000 : Nat) (Bytes.toNat data / 0x400000000) data
  | wide {nanoseconds seconds : Bytes} (hn : nanoseconds.length = 4) (hs : seconds.length = 8)
      (bound : Bytes.toNat nanoseconds < 1000000000) :
      Stamp (Bytes.toInt seconds) (Bytes.toNat nanoseconds) (nanoseconds ++ seconds)

/-- A value that holds no others, and the bytes behind its header. The codes of application values
run from 0 to 127; 255 is that of a time stamp. -/
inductive Leaf : Header → Value → Bytes → Prop
  | nil : Leaf .nil .nil []
  | bool (b : Bool) : Leaf (.bool b) (.bool b) []
  | int (n : Int) : Leaf (.int n) (.int n) []
  | single (bits : Bytes) : Leaf (.single bits) (.real (.ofSingle (Bytes.toNat bits))) []
  | double (bits : Bytes) : Leaf (.double bits) (.real (.ofBytes bits)) []
  | str (s : List Char) :
      Leaf (.str (Utf8.encodeChars s).length) (.str s) (Utf8.encodeChars s)
  | bin (data : Bytes) : Leaf (.bin data.length) (.bin data) data
  | ext {code : UInt8} (known : code < 128) (data : Bytes) :
      Leaf (.ext code data.length) (.ext code.toNat data) data
  | stamp {seconds : Int} {nanoseconds : Nat} {data : Bytes} (h : Stamp seconds nanoseconds data) :
      Leaf (.ext 255 data.length) (.timestamp seconds nanoseconds) data

/-- Things written one after another. -/
inductive Chain {α : Type} (P : α → Bytes → Prop) : List α → Bytes → Prop
  | nil : Chain P [] []
  | cons {x : α} {xs : List α} {front rest : Bytes} (head : P x front) (tail : Chain P xs rest) :
      Chain P (x :: xs) (front ++ rest)

/-- What may be a key. -/
inductive IsKey : Value → Prop
  | str (s : List Char) : IsKey (.str s)
  | bin (data : Bytes) : IsKey (.bin data)

/-- A key and then its value. -/
inductive Entry (P : Value → Bytes → Prop) : Value × Value → Bytes → Prop
  | intro {key value : Value} {front rest : Bytes} (isKey : IsKey key) (hk : P key front)
      (hv : P value rest) : Entry P (key, value) (front ++ rest)

/-- A map that announces and then lists these pairs, in this order. -/
inductive Mapping (P : Value → Bytes → Prop) : List (Value × Value) → Bytes → Prop
  | intro {pairs : List (Value × Value)} {front body : Bytes}
      (announced : Announces (.map pairs.length) front) (listed : Chain (Entry P) pairs body) :
      Mapping P pairs (front ++ body)

/-- A value that is no container. -/
inductive Plain : Value → Bytes → Prop
  | intro {header : Header} {value : Value} {front body : Bytes}
      (announced : Announces header front) (leaf : Leaf header value body) :
      Plain value (front ++ body)

/-- A container whose contents are written as `P` says. -/
inductive Filled (P : Value → Bytes → Prop) : Value → Bytes → Prop
  | arr {items : List Value} {front body : Bytes}
      (announced : Announces (.arr items.length) front) (listed : Chain P items body) :
      Filled P (.arr items) (front ++ body)
  | map {pairs : List (Value × Value)} {bytes : Bytes} (h : Mapping P pairs bytes) :
      Filled P (mapOf pairs) bytes

/-- The written forms of a value in which containers nest at most `room` deep. -/
def Written : (room : Nat) → Value → Bytes → Prop
  | 0 => Plain
  | room + 1 => fun value bytes => Plain value bytes ∨ Filled (Written room) value bytes

/-! ## What is read is written -/

theorem timestamp?_ok {data : Bytes} {value : Value} :
    timestamp? data = .ok value ↔
      ∃ seconds nanoseconds,
        Stamp seconds nanoseconds data ∧ value = .timestamp seconds nanoseconds := by
  constructor
  · intro h
    simp only [timestamp?] at h
    split at h
    · rename_i hl
      rw [if_pos (by decide)] at h
      cases h
      exact ⟨_, _, .seconds hl, rfl⟩
    · rename_i hl
      split at h
      · rename_i bound
        cases h
        exact ⟨_, _, .packed hl bound, rfl⟩
      · cases h
    · rename_i hl
      split at h
      · rename_i bound
        cases h
        have wide : Stamp _ _ (data.take 4 ++ data.drop 4) :=
          .wide (by simp [hl]) (by simp [hl]) bound
        rw [List.take_append_drop] at wide
        exact ⟨_, _, wide, rfl⟩
      · cases h
    · cases h
  · rintro ⟨_, _, stamp, rfl⟩
    cases stamp with
    | seconds hl => simp [timestamp?, hl]
    | packed hl bound => simp [timestamp?, hl, bound]
    | wide hn hs bound =>
      simp [timestamp?, hn, hs, bound, List.take_left' hn, List.drop_left' hn]

theorem ext?_ok {code : UInt8} {data : Bytes} {value : Value} :
    ext? code data = .ok value ↔ Leaf (.ext code data.length) value data := by
  constructor
  · intro h
    simp only [ext?] at h
    split at h
    · rename_i hc
      subst hc
      obtain ⟨_, _, stamp, rfl⟩ := timestamp?_ok.1 h
      exact .stamp stamp
    split at h
    · rename_i known
      cases h
      exact .ext known data
    · cases h
  · intro h
    generalize hh : Header.ext code data.length = header at h
    simp only [ext?]
    cases h with
    | ext known =>
      obtain ⟨rfl, -⟩ := Header.ext.inj hh
      have other : code ≠ 255 := by
        rintro rfl
        exact absurd known (by decide)
      rw [if_neg other, if_pos known]
    | stamp stamp =>
      obtain ⟨rfl, -⟩ := Header.ext.inj hh
      rw [if_pos rfl]
      exact timestamp?_ok.2 ⟨_, _, stamp, rfl⟩
    | _ => cases hh

section
variable {limits : Limits} {inner : Option (Bytes → Except Fault (Value × Bytes))}
variable {rest after : Bytes} {header : Header} {value : Value}

/-- All that reading behind a header can come to: a leaf, or a container read item by item. -/
theorem readBody_ok (h : readBody limits inner rest header = .ok (value, after)) :
    (∃ body, Leaf header value body ∧ rest = body ++ after) ∨
    (∃ read count items, inner = some read ∧ header = .arr count ∧ value = .arr items ∧
      readMany read count [] rest = .ok (items, after)) ∨
    (∃ read count pairs, inner = some read ∧ header = .map count ∧ value = mapOf pairs ∧
      readMany (readPair read) count [] rest = .ok (pairs, after)) := by
  cases header with
  | nil | bool | int | single | double =>
    cases h
    exact .inl ⟨[], by constructor, rfl⟩
  | str length =>
    simp only [readBody] at h
    split at h
    · cases h
    rename_i text after' hs
    split at h
    · cases h
    rename_i s hd
    cases h
    obtain ⟨rfl, rfl⟩ := Bytes.split?_eq_some.1 hs
    obtain rfl := Utf8.decode?_eq_ok_iff.1 hd
    exact .inl ⟨_, .str s, rfl⟩
  | bin length =>
    simp only [readBody] at h
    split at h
    · cases h
    rename_i data after' hs
    cases h
    obtain ⟨rfl, rfl⟩ := Bytes.split?_eq_some.1 hs
    exact .inl ⟨data, .bin data, rfl⟩
  | ext code length =>
    simp only [readBody] at h
    split at h
    · cases h
    rename_i data after' hs
    obtain ⟨rfl, rfl⟩ := Bytes.split?_eq_some.1 hs
    obtain ⟨v, he, hv⟩ := map_eq_ok.1 h
    cases hv
    exact .inl ⟨data, ext?_ok.1 he, rfl⟩
  | arr count =>
    simp only [readBody] at h
    split at h
    · cases h
    rename_i read
    split at h
    · cases h
    obtain ⟨out, hm, ho⟩ := map_eq_ok.1 h
    cases ho
    exact .inr (.inl ⟨read, count, _, rfl, rfl, rfl, hm⟩)
  | map count =>
    simp only [readBody] at h
    split at h
    · cases h
    rename_i read
    split at h
    · cases h
    obtain ⟨out, hm, ho⟩ := map_eq_ok.1 h
    cases ho
    exact .inr (.inr ⟨read, count, _, rfl, rfl, rfl, hm⟩)

theorem readMany_sound {α : Type} {read : Bytes → Except Fault (α × Bytes)}
    {P : α → Bytes → Prop}
    (hread : ∀ bytes x after, read bytes = .ok (x, after) →
      ∃ front, P x front ∧ bytes = front ++ after)
    {count : Nat} {acc xs : List α} {bytes : Bytes}
    (h : readMany read count acc bytes = .ok (xs, after)) :
    ∃ ys body, xs = acc.reverse ++ ys ∧ ys.length = count ∧ Chain P ys body ∧
      bytes = body ++ after := by
  induction count generalizing acc bytes with
  | zero =>
    cases h
    exact ⟨[], [], by simp, rfl, .nil, rfl⟩
  | succ count ih =>
    simp only [readMany] at h
    split at h
    · cases h
    rename_i x rest hx
    obtain ⟨front, hf, rfl⟩ := hread _ _ _ hx
    obtain ⟨ys, body, rfl, rfl, chain, rfl⟩ := ih h
    exact ⟨x :: ys, front ++ body, by simp, rfl, .cons hf chain, by simp⟩

theorem readPair_sound {read : Bytes → Except Fault (Value × Bytes)} {P : Value → Bytes → Prop}
    (hread : ∀ bytes x after, read bytes = .ok (x, after) →
      ∃ front, P x front ∧ bytes = front ++ after)
    (bytes : Bytes) (pair : Value × Value) (after : Bytes)
    (h : readPair read bytes = .ok (pair, after)) :
    ∃ front, Entry P pair front ∧ bytes = front ++ after := by
  simp only [readPair] at h
  split at h
  · cases h
  rename_i key rest hk
  split at h
  · cases h
  rename_i value rest' hv
  obtain ⟨a, ha, rfl⟩ := hread _ _ _ hk
  obtain ⟨b, hb, rfl⟩ := hread _ _ _ hv
  split at h
  · cases h
    exact ⟨a ++ b, .intro (.str _) ha hb, by simp⟩
  · cases h
    exact ⟨a ++ b, .intro (.bin _) ha hb, by simp⟩
  · cases h

theorem readValue_sound {room : Nat} {bytes : Bytes}
    (h : readValue limits room bytes = .ok (value, after)) :
    ∃ front, Written room value front ∧ bytes = front ++ after := by
  induction room generalizing bytes value after with
  | zero =>
    cases bytes with
    | nil => simp [readValue] at h
    | cons lead rest =>
      simp only [readValue] at h
      split at h
      · cases h
      rename_i header rest' hh
      obtain ⟨front, announced, he⟩ := readHeader_sound hh
      rw [he]
      obtain ⟨body, leaf, rfl⟩ | ⟨_, _, _, none, _⟩ | ⟨_, _, _, none, _⟩ := readBody_ok h
      · exact ⟨front ++ body, .intro announced leaf, by simp⟩
      · cases none
      · cases none
  | succ room ih =>
    cases bytes with
    | nil => simp [readValue] at h
    | cons lead rest =>
      simp only [readValue] at h
      split at h
      · cases h
      rename_i header rest' hh
      obtain ⟨front, announced, he⟩ := readHeader_sound hh
      rw [he]
      have hread : ∀ bytes x after, readValue limits room bytes = .ok (x, after) →
          ∃ front, Written room x front ∧ bytes = front ++ after := fun _ _ _ => ih
      obtain ⟨body, leaf, rfl⟩ | ⟨read, count, items, some, rfl, rfl, hm⟩ |
        ⟨read, count, pairs, some, rfl, rfl, hm⟩ := readBody_ok h
      · exact ⟨front ++ body, .inl (.intro announced leaf), by simp⟩
      · cases some
        obtain ⟨ys, body, rfl, rfl, chain, rfl⟩ := readMany_sound hread hm
        exact ⟨front ++ body, .inr (.arr announced chain), by simp⟩
      · cases some
        obtain ⟨ys, body, rfl, rfl, chain, rfl⟩ := readMany_sound (readPair_sound hread) hm
        exact ⟨front ++ body, .inr (.map (.intro announced chain)), by simp⟩

end

/-! ## What is written is read -/

theorem Announces.length_pos {header : Header} {front : Bytes} (h : Announces header front) :
    0 < front.length := by
  obtain ⟨lead, rest, rfl, -⟩ := readHeader_complete h []
  simp

theorem Chain.single {α : Type} {P : α → Bytes → Prop} {x : α} {bytes : Bytes} (h : P x bytes) :
    Chain P [x] bytes := by
  have chain := Chain.cons h .nil
  rwa [List.append_nil] at chain

theorem Chain.length_le {α : Type} {P : α → Bytes → Prop} {k : Nat}
    (least : ∀ x front, P x front → k ≤ front.length) {xs : List α} {body : Bytes}
    (h : Chain P xs body) : k * xs.length ≤ body.length := by
  induction h with
  | nil => simp
  | cons head _ ih =>
    have := least _ _ head
    simp only [List.length_cons, List.length_append, Nat.mul_succ]
    omega

theorem Mapping.length_lt {P : Value → Bytes → Prop} {pairs : List (Value × Value)} {bytes : Bytes}
    (least : ∀ v front, P v front → 1 ≤ front.length) (h : Mapping P pairs bytes) :
    2 * pairs.length < bytes.length := by
  cases h with
  | intro announced listed =>
    have he : ∀ pair front, Entry P pair front → 2 ≤ front.length := by
      rintro _ _ ⟨_, hk, hv⟩
      have := least _ _ hk
      have := least _ _ hv
      simp only [List.length_append]
      omega
    have := listed.length_le he
    have := announced.length_pos
    simp only [List.length_append]
    omega

theorem Written.length_pos {room : Nat} {value : Value} {bytes : Bytes}
    (h : Written room value bytes) : 1 ≤ bytes.length := by
  have plain {value : Value} {bytes : Bytes} (h : Plain value bytes) : 1 ≤ bytes.length := by
    cases h with
    | intro announced _ =>
      have := announced.length_pos
      simp only [List.length_append]
      omega
  cases room with
  | zero => exact plain h
  | succ room =>
    rcases h with h | ⟨announced, _⟩ | ⟨announced, _⟩
    · exact plain h
    all_goals
      have := announced.length_pos
      simp only [List.length_append]
      omega

/-- Limits that refuse no container within so many bytes. -/
def Limits.Allow (limits : Limits) (length : Nat) : Prop :=
  length ≤ limits.items ∧ length ≤ 2 * limits.pairs + 1

theorem Limits.allow_ofLength (length : Nat) : (Limits.ofLength length).Allow length := by
  simp only [Allow, ofLength]
  omega

section
variable {limits : Limits} {inner : Option (Bytes → Except Fault (Value × Bytes))}

theorem readBody_leaf {header : Header} {value : Value} {body : Bytes} (h : Leaf header value body)
    (after : Bytes) : readBody limits inner (body ++ after) header = .ok (value, after) := by
  cases h with
  | nil | bool | int | single | double => rfl
  | str s =>
    simp only [readBody, Bytes.split?_append]
    rw [Utf8.decode?_eq_ok_iff.2 rfl]
  | bin data => simp only [readBody, Bytes.split?_append]
  | ext known data =>
    simp only [readBody, Bytes.split?_append]
    rw [ext?_ok.2 (.ext known body)]
    rfl
  | stamp stamp =>
    simp only [readBody, Bytes.split?_append]
    rw [ext?_ok.2 (.stamp stamp)]
    rfl

theorem readMany_complete {α : Type} {read : Bytes → Except Fault (α × Bytes)}
    {P : α → Bytes → Prop} {bound : Nat}
    (hread : ∀ x front after, P x front → front.length ≤ bound →
      read (front ++ after) = .ok (x, after))
    {xs : List α} {body : Bytes} (h : Chain P xs body) (fits : body.length ≤ bound)
    (acc : List α) (after : Bytes) :
    readMany read xs.length acc (body ++ after) = .ok (acc.reverse ++ xs, after) := by
  induction h generalizing acc with
  | nil => simp [readMany]
  | cons head _ ih =>
    simp only [List.length_append] at fits
    rw [List.length_cons, readMany, List.append_assoc, hread _ _ _ head (by omega)]
    simp only []
    rw [ih (by omega)]
    simp

theorem readPair_complete {read : Bytes → Except Fault (Value × Bytes)} {P : Value → Bytes → Prop}
    {bound : Nat} (hread : ∀ x front after, P x front → front.length ≤ bound →
      read (front ++ after) = .ok (x, after))
    (pair : Value × Value) (front after : Bytes) (h : Entry P pair front)
    (fits : front.length ≤ bound) : readPair read (front ++ after) = .ok (pair, after) := by
  cases h with
  | intro isKey hk hv =>
    simp only [List.length_append] at fits
    rw [readPair, List.append_assoc, hread _ _ _ hk (by omega)]
    simp only []
    rw [hread _ _ _ hv (by omega)]
    cases isKey <;> rfl

/-- What may stand inside of a value with so much room. -/
def inside (limits : Limits) : Nat → Option (Bytes → Except Fault (Value × Bytes))
  | 0 => none
  | room + 1 => some (readValue limits room)

theorem readValue_announced {room : Nat} {header : Header} {front : Bytes}
    (h : Announces header front) (rest : Bytes) :
    readValue limits room (front ++ rest) = readBody limits (inside limits room) rest header := by
  obtain ⟨lead, tail, rfl, hh⟩ := readHeader_complete h rest
  cases room <;> simp only [List.cons_append, readValue, hh, inside]

theorem readValue_plain {room : Nat} {value : Value} {front : Bytes} (h : Plain value front)
    (after : Bytes) : readValue limits room (front ++ after) = .ok (value, after) := by
  cases h with
  | intro announced leaf =>
    rw [List.append_assoc, readValue_announced announced]
    exact readBody_leaf leaf after

theorem readValue_complete {room : Nat} {value : Value} {front : Bytes}
    (h : Written room value front) (allowed : limits.Allow front.length) (after : Bytes) :
    readValue limits room (front ++ after) = .ok (value, after) := by
  induction room generalizing value front after with
  | zero => exact readValue_plain h after
  | succ room ih =>
    have hread : ∀ v (part : Bytes) after, Written room v part → part.length ≤ front.length →
        readValue limits room (part ++ after) = .ok (v, after) := by
      intro v part after hv hl
      exact ih hv ⟨Nat.le_trans hl allowed.1, Nat.le_trans hl allowed.2⟩ after
    rcases h with plain | container
    · exact readValue_plain plain after
    cases container with
    | @arr items front body announced listed =>
      have count := listed.length_le fun _ _ => Written.length_pos
      have held : ¬items.length > limits.items := by
        have := allowed.1
        simp only [List.length_append] at this
        omega
      have many := readMany_complete hread listed (by simp) [] after
      rw [List.append_assoc, readValue_announced announced]
      simp only [inside, readBody]
      rw [if_neg held, many]
      rfl
    | @map pairs bytes mapping =>
      have count := mapping.length_lt fun _ _ => Written.length_pos
      have held : ¬pairs.length > limits.pairs := by
        have := allowed.2
        omega
      cases mapping with
      | intro announced listed =>
        have many := readMany_complete (readPair_complete hread) listed (by simp) [] after
        rw [List.append_assoc, readValue_announced announced]
        simp only [inside, readBody]
        rw [if_neg held, many]
        rfl

end

/-! ## Whole texts -/

/-- **The reader accepts exactly the written forms**, with containers nested as deep as it allows,
and nothing before or behind. -/
theorem unpack_eq_ok_iff {bytes : Bytes} {value : Value} :
    unpack bytes = .ok value ↔ Written maxNesting value bytes := by
  constructor
  · intro h
    simp only [unpack] at h
    split at h
    · cases h
    · rename_i hv
      cases h
      obtain ⟨front, written, rfl⟩ := readValue_sound hv
      rwa [List.append_nil]
    · cases h
  · intro h
    have := readValue_complete h (Limits.allow_ofLength bytes.length) []
    rw [List.append_nil] at this
    simp only [unpack, this]

/-- A text that is one map, its contents nested as deep as the map leaves room. -/
def MapText (pairs : List (Value × Value)) (bytes : Bytes) : Prop :=
  Mapping (Written (maxNesting - 1)) pairs bytes

theorem unpack_mapText {pairs : List (Value × Value)} {bytes : Bytes} (h : MapText pairs bytes) :
    unpack bytes = .ok (mapOf pairs) :=
  unpack_eq_ok_iff.2 (.inr (.map h))

theorem mapText_of_unpack {fields : List (Value × Value)} {bytes : Bytes}
    (h : unpack bytes = .ok (.map fields)) :
    ∃ pairs, MapText pairs bytes ∧ mapOf pairs = .map fields := by
  rw [unpack_eq_ok_iff] at h
  generalize hv : Value.map fields = value at h
  rcases h with ⟨announced, leaf⟩ | container
  · subst hv
    cases leaf
  · cases container with
    | arr => cases hv
    | map mapping => exact ⟨_, mapping, rfl⟩

end EdgeSession.Pack
