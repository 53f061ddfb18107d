import KnowledgeBase.Proofs.Json.DataModel

/-!
# Settings over their defaults

A document of settings names only those that differ from their defaults.  The settings of each kind
are listed here with the names, the types and the defaults that they have, sections included, and
the readers are shown to do what the list says: a document is read when every setting that it names
has a value of its type, what it does not name keeps its default, and nothing else in it counts.

## Main definitions

* `Form` — what the values of a type look like in a document, together with their reader.
* `Setting`, `Layout` — a setting of a record of settings, and all of them.
* `Layout.Overlays` — settings are what a document gives over the defaults.
* `Layout.WellTyped`, `Layout.Plain`, `Layout.Alike` — documents whose values have the types of
  their settings, those without arrays in place of sections, and those that differ only in members
  that no setting has the name of.
* `SettingsKind` — the kinds of settings.

## Main results

* `SettingsKind.overlays` — **a document overlays the defaults.**
-/

namespace KnowledgeBase

open Json

/-! ### Readings -/

namespace Json

namespace Reading

variable {α β : Type} {b : β}

/-- Applying a function to one reading is the first step of joining several. -/
theorem map_eq_seq (f : α → β) (x : Reading α) : f <$> x = seq (.ok f) x := by
  cases x <;> rfl

theorem seq_eq_ok {f : Reading (α → β)} {x : Reading α} :
    seq f x = .ok b ↔ ∃ g a, f = .ok g ∧ x = .ok a ∧ g a = b := by
  cases f <;> cases x <;> simp [seq]

end Reading

variable {α : Type}

/-- The members of an object as a record. -/
abbrev Record.ofFields (o : Fields) : Record := ⟨false, o, false⟩

/-- What is neither an object nor an array is no record. -/
theorem readRecord_ne_ok {rules : Rules} {names : List String} {read : Record → Reading α}
    {v : Json} (harr : ∀ items, v ≠ .arr items) (hobj : ∀ o, v ≠ .obj o) (a : α) :
    readRecord rules names read v ≠ .ok a := by
  cases v with
  | arr items => exact absurd rfl (harr items)
  | obj o => exact absurd rfl (hobj o)
  | _ => rintro ⟨⟩

end Json

/-! ### Values in a document -/

theorem Except.map_eq_ok {ε α β : Type} {f : α → β} {x : Except ε α} {b : β} :
    x.map f = .ok b ↔ ∃ a, x = .ok a ∧ f a = b := by
  cases x <;> simp [Except.map]

/-- What the values of a type look like in a document, and the reader that finds them there. -/
structure Form (α : Type) where
  read : Json → Except DecodeError α
  /-- The document holds the value. -/
  Gives : Json → α → Prop
  /-- No section in the document is written as an array. -/
  Plain : Json → Prop
  /-- The documents differ at most in members that have no meaning. -/
  Alike : Json → Json → Prop
  read_eq_ok {v : Json} {a : α} : Plain v → (read v = .ok a ↔ Gives v a)
  read_congr {v v' : Json} : Alike v v' → read v = read v'
  not_null (a : α) : ¬ Gives .null a

namespace Form

variable {α : Type}

/-- Values without sections. -/
def simple (read : Json → Except DecodeError α) (Gives : Json → α → Prop)
    (h : ∀ {v a}, read v = .ok a ↔ Gives v a) (hnull : ∀ a, ¬ Gives .null a) : Form α where
  read := read
  Gives := Gives
  Plain _ := True
  Alike v v' := v = v'
  read_eq_ok _ := h
  read_congr heq := congrArg read heq
  not_null := hnull

theorem decode_text {v : Json} {s : String} : decode v = .ok s ↔ v = .str s := by
  change readText v = .ok s ↔ _
  cases v <;> simp [readText]

theorem decode_flag {v : Json} {b : Bool} : decode v = .ok b ↔ v = .bool b := by
  change readBool v = .ok b ↔ _
  cases v <;> simp [readBool]

theorem readInt_eq_ok {low high n : Int} {v : Json} :
    readInt low high v = .ok n ↔ v = .int n ∧ low ≤ n ∧ n ≤ high := by
  cases v with
  | int m =>
    simp only [readInt, Json.int.injEq]
    by_cases hm : low ≤ m ∧ m ≤ high
    · simp only [hm, and_self, if_true, Except.ok.injEq]
      constructor
      · rintro rfl
        exact ⟨rfl, hm⟩
      · exact fun h => h.1
    · simp only [hm, if_false, reduceCtorEq, false_iff]
      rintro ⟨rfl, h⟩
      exact hm h
  | _ => simp [readInt]

/-- Numbers below `size` are read from the integers that they are. -/
theorem readInt_map_eq_ok (size : Nat) {ofNat : Nat → α} {toNat : α → Nat} (hsize : 0 < size)
    (hof : ∀ m < size, toNat (ofNat m) = m) (hto : ∀ n, toNat n < size ∧ ofNat (toNat n) = n)
    {v : Json} {n : α} :
    (readInt 0 (size - 1 : Nat) v).map (fun m => ofNat m.toNat) = .ok n ↔ v = .int (toNat n) := by
  rw [Except.map_eq_ok]
  constructor
  · rintro ⟨m, hread, rfl⟩
    obtain ⟨rfl, hlow, hhigh⟩ := readInt_eq_ok.1 hread
    rw [hof m.toNat (by omega), Int.toNat_of_nonneg hlow]
  · rintro rfl
    obtain ⟨hlt, heq⟩ := hto n
    refine ⟨toNat n, readInt_eq_ok.2 ⟨rfl, by omega, by omega⟩, ?_⟩
    rw [Int.toNat_natCast, heq]

theorem decode_nat32 {v : Json} {n : UInt32} : decode v = .ok n ↔ v = .int n.toNat :=
  readInt_map_eq_ok (2 ^ 32) (by decide) (fun _ => UInt32.toNat_ofNat_of_lt')
    fun n => ⟨n.toNat_lt, UInt32.ofNat_toNat⟩

theorem decode_nat64 {v : Json} {n : UInt64} : decode v = .ok n ↔ v = .int n.toNat :=
  readInt_map_eq_ok (2 ^ 64) (by decide) (fun _ => UInt64.toNat_ofNat_of_lt')
    fun n => ⟨n.toNat_lt, UInt64.ofNat_toNat⟩

theorem decode_double {v : Json} {x : Float} :
    decode v = .ok x ↔ v = .double x ∨ ∃ n, v = .int n ∧ x = Double.ofInt n := by
  change readDouble v = .ok x ↔ _
  cases v <;> simp [readDouble, eq_comm]

theorem ofName?_eq_some {name : String} {m : FusionMode} :
    FusionMode.ofName? name = some m ↔ name = m.name := by
  constructor
  · intro h
    unfold FusionMode.ofName? at h
    split at h
    · next hname =>
      cases h
      exact hname
    · split at h
      · next hname =>
        cases h
        exact hname
      · cases h
  · rintro rfl
    cases m <;> rfl

theorem decode_fusion {v : Json} {m : FusionMode} :
    decode v = .ok m ↔ v = .str m.name ∨ v = .obj [(m.name, .null)] := by
  have hname (name : String) :
      ((FusionMode.ofName? name).map Except.ok).getD (.error DecodeError.mismatch) = .ok m ↔
        name = m.name := by
    rw [← ofName?_eq_some]
    cases FusionMode.ofName? name <;> simp
  change readConstant .strict FusionMode.ofName? v = .ok m ↔ _
  unfold readConstant
  split
  · next name => simp [hname]
  · next name payload =>
    cases payload <;> simp [Rules.strict, hname]
  · next hstr hobj =>
    simp only [reduceCtorEq, false_iff, not_or]
    exact ⟨hstr _, hobj _ _⟩

/-! ### Forms of simple values -/

/-- A text. -/
def text : Form String := simple decode (fun v s => v = .str s) decode_text nofun

/-- A truth value. -/
def flag : Form Bool := simple decode (fun v b => v = .bool b) decode_flag nofun

/-- A whole number of thirty-two bits. -/
def nat32 : Form UInt32 := simple decode (fun v n => v = .int n.toNat) decode_nat32 nofun

/-- A whole number of sixty-four bits. -/
def nat64 : Form UInt64 := simple decode (fun v n => v = .int n.toNat) decode_nat64 nofun

/-- A double, or an integer that is rounded to one. -/
def double : Form Float :=
  simple decode (fun v x => v = .double x ∨ ∃ n, v = .int n ∧ x = Double.ofInt n) decode_double
    fun _ => by simp

/-- The name of a mode, alone or as a member without a payload. -/
def fusion : Form FusionMode :=
  simple decode (fun v m => v = .str m.name ∨ v = .obj [(m.name, .null)]) decode_fusion
    fun _ => by simp

end Form

/-! ### Layouts -/

/-- A setting of a record `S` of settings. -/
structure Setting (S : Type) where
  name : String
  Value : Type
  get : S → Value
  form : Form Value

section Values

variable {S : Type}

/-- Values of settings, in their order. -/
def Values : List (Setting S) → Type
  | [] => Unit
  | x :: xs => x.Value × Values xs

/-- The functions of values of settings, one after the other. -/
def Curried (β : Type) : List (Setting S) → Type
  | [] => β
  | x :: xs => x.Value → Curried β xs

/-- The value of such a function. -/
def Curried.apply {β : Type} : {xs : List (Setting S)} → Curried β xs → Values xs → β
  | [], b, _ => b
  | _ :: _, f, (a, as) => apply (f a) as

namespace Values

/-- The values of the settings of a record. -/
def of (s : S) : (xs : List (Setting S)) → Values xs
  | [] => ()
  | x :: xs => (x.get s, of s xs)

/-- Each of the values has the property. -/
def All (P : (x : Setting S) → x.Value → Prop) : {xs : List (Setting S)} → Values xs → Prop
  | [], _ => True
  | x :: _, (a, as) => P x a ∧ All P as

variable {P : (x : Setting S) → x.Value → Prop}

theorem all_of {s : S} {xs : List (Setting S)} : All P (of s xs) ↔ ∀ x ∈ xs, P x (x.get s) := by
  induction xs with
  | nil => simp [All]
  | cons x xs ih => rw [of, All, ih, List.forall_mem_cons]

/-- Values can be chosen setting by setting. -/
theorem exists_all {xs : List (Setting S)} :
    (∃ as : Values xs, All P as) ↔ ∀ x ∈ xs, ∃ a, P x a := by
  induction xs with
  | nil => exact ⟨fun _ => List.forall_mem_nil _, fun _ => ⟨(), trivial⟩⟩
  | cons x xs ih =>
    rw [List.forall_mem_cons, ← ih]
    constructor
    · rintro ⟨⟨a, as⟩, ha, has⟩
      exact ⟨⟨a, ha⟩, as, has⟩
    · rintro ⟨⟨a, ha⟩, as, has⟩
      exact ⟨(a, as), ha, has⟩

end Values

end Values

/-- The settings of a record, with their defaults.  They do not depend on each other and make up the
whole record. -/
class Layout (S : Type) where
  settings : List (Setting S)
  default : S
  make : Curried S settings
  make_values (s : S) : make.apply (Values.of s settings) = s
  values_make (as : Values settings) : Values.of (make.apply as) settings = as

namespace Layout

/-- The value of a setting is what the document gives, or the default where it does not name the
setting. -/
def Given {S : Type} [Layout S] (o : Fields) (x : Setting S) (a : x.Value) : Prop :=
  match Assoc.get? x.name o with
  | some v => x.form.Gives v a
  | none => a = x.get default

/-- Settings are what the document gives over the defaults. -/
def Overlays {S : Type} [Layout S] (o : Fields) (s : S) : Prop :=
  ∀ x ∈ settings, Given o x (x.get s)

variable (S : Type) [Layout S]

/-- Every setting that the document names has a value of its type. -/
def WellTyped (o : Fields) : Prop :=
  ∀ x ∈ settings (S := S), ∀ v ∈ Assoc.get? x.name o, ∃ a, x.form.Gives v a

/-- No section, however deep, is written as an array. -/
def Plain (o : Fields) : Prop :=
  ∀ x ∈ settings (S := S), ∀ v ∈ Assoc.get? x.name o, x.form.Plain v

/-- The documents name the same settings, with the same values up to members in their sections that
no setting has the name of. -/
def Alike (o o' : Fields) : Prop :=
  ∀ x ∈ settings (S := S), Option.Rel x.form.Alike (Assoc.get? x.name o) (Assoc.get? x.name o')

variable {S} {o o' : Fields}

/-- The reading of a setting. -/
def reading (o : Fields) (x : Setting S) : Reading x.Value :=
  Record.withDefault (.ofFields o) x.name (x.get default) x.form.read

/-- The readings of settings, joined one after the other. -/
def gather (o : Fields) : (xs : List (Setting S)) → Reading (Curried S xs) → Reading S
  | [], r => r
  | x :: xs, r => gather o xs (@Reading.seq x.Value _ r (reading o x))

/-- Reading a setting finds what the document gives. -/
theorem reading_eq_ok {x : Setting S} {a : x.Value}
    (h : ∀ v ∈ Assoc.get? x.name o, x.form.Plain v) : reading o x = .ok a ↔ Given o x a := by
  unfold reading Given Record.withDefault
  cases hv : Assoc.get? x.name o with
  | none => simp [eq_comm]
  | some v =>
    simp only
    rw [← x.form.read_eq_ok (h v hv), Record.present]
    cases x.form.read v <;> simp

theorem reading_congr {x : Setting S}
    (h : Option.Rel x.form.Alike (Assoc.get? x.name o) (Assoc.get? x.name o')) :
    reading o x = reading o' x := by
  unfold reading Record.withDefault
  cases hv : Assoc.get? x.name o with
  | none =>
    rw [hv] at h
    cases hv' : Assoc.get? x.name o' with
    | none => rfl
    | some v' => rw [hv'] at h; cases h
  | some v =>
    rw [hv] at h
    cases hv' : Assoc.get? x.name o' with
    | none => rw [hv'] at h; cases h
    | some v' =>
      rw [hv'] at h
      cases h with
      | some halike => simp only [Record.present, x.form.read_congr halike]

/-- Joined readings give the value of a function at the values that were read. -/
theorem gather_eq_ok {xs : List (Setting S)} {r : Reading (Curried S xs)} {s : S} :
    gather o xs r = .ok s ↔ ∃ f as, r = .ok f ∧
      Values.All (fun x a => reading o x = .ok a) as ∧ f.apply as = s := by
  induction xs with
  | nil =>
    constructor
    · rintro rfl
      exact ⟨s, (), rfl, trivial, rfl⟩
    · rintro ⟨f, as, rfl, -, rfl⟩
      rfl
  | cons x xs ih =>
    rw [gather, ih]
    constructor
    · rintro ⟨g, as, hg, has, rfl⟩
      obtain ⟨f, a, rfl, ha, rfl⟩ := Reading.seq_eq_ok.1 hg
      exact ⟨f, (a, as), rfl, ⟨ha, has⟩, rfl⟩
    · rintro ⟨f, ⟨a, as⟩, rfl, ⟨ha, has⟩, rfl⟩
      exact ⟨f a, as, Reading.seq_eq_ok.2 ⟨f, a, rfl, ha, rfl⟩, has, rfl⟩

theorem gather_congr {xs : List (Setting S)} (h : ∀ x ∈ xs, reading o x = reading o' x)
    (r : Reading (Curried S xs)) : gather o xs r = gather o' xs r := by
  induction xs with
  | nil => rfl
  | cons x xs ih =>
    obtain ⟨hx, hxs⟩ := List.forall_mem_cons.1 h
    rw [gather, gather, hx, ih hxs]

end Layout

/-- A record of settings that is read from an object setting by setting, and from nothing but
objects and arrays. -/
class LawfulLayout (S : Type) [Codec S] extends Layout S where
  decode_obj (o : Fields) :
    decode (.obj o) = (Record.ofFields o).finish (Layout.gather o settings (.ok make))
  decode_ne_ok {v : Json} : (∀ items, v ≠ .arr items) → (∀ o, v ≠ .obj o) →
    ∀ s : S, decode v ≠ .ok s

namespace Layout

open LawfulLayout

variable {S : Type} [Codec S] [LawfulLayout S] {o o' : Fields} {s : S}

/-- The settings that are read are the readings of the single ones. -/
theorem decode_eq_ok : decode (.obj o) = .ok s ↔ ∀ x ∈ settings, reading o x = .ok (x.get s) := by
  have hfinish (r : Reading S) : (Record.ofFields o).finish r = .ok s ↔ r = .ok s := by
    cases r <;> simp [Record.finish]
  rw [decode_obj, hfinish, gather_eq_ok, ← Values.all_of (P := fun x a => reading o x = .ok a)]
  constructor
  · rintro ⟨f, as, hf, has, rfl⟩
    cases hf
    rw [values_make]
    exact has
  · intro h
    exact ⟨make, Values.of s settings, rfl, h, make_values s⟩

theorem decode_overlays (h : Plain S o) : decode (.obj o) = .ok s ↔ Overlays o s := by
  rw [decode_eq_ok]
  exact forall₂_congr fun x hx => reading_eq_ok (h x hx)

theorem exists_overlays : (∃ s : S, Overlays o s) ↔ WellTyped S o := by
  have hgiven (x : Setting S) :
      (∃ a, Given o x a) ↔ ∀ v ∈ Assoc.get? x.name o, ∃ a, x.form.Gives v a := by
    unfold Given
    cases Assoc.get? x.name o <;> simp
  unfold WellTyped
  rw [← forall₂_congr fun x _ => hgiven x, ← Values.exists_all]
  constructor
  · rintro ⟨s, hs⟩
    exact ⟨Values.of s settings, Values.all_of.2 hs⟩
  · rintro ⟨as, has⟩
    refine ⟨make.apply as, Values.all_of.1 ?_⟩
    rw [values_make]
    exact has

theorem decode_alike (h : Alike S o o') :
    (decode (.obj o) : Except DecodeError S) = decode (.obj o') := by
  rw [decode_obj, decode_obj, gather_congr fun x hx => reading_congr (h x hx)]
  rfl

end Layout

/-- A section of settings. -/
def Form.section (S : Type) [Codec S] [LawfulLayout S] : Form S where
  read := decode
  Gives v s := ∃ o, v = .obj o ∧ Layout.Overlays o s
  Plain v := (∀ items, v ≠ .arr items) ∧ ∀ o, v = .obj o → Layout.Plain S o
  Alike v v' := v = v' ∨ ∃ o o', v = .obj o ∧ v' = .obj o' ∧ Layout.Alike S o o'
  read_eq_ok {v s} hplain := by
    obtain ⟨harr, hobj⟩ := hplain
    constructor
    · intro h
      by_cases hv : ∃ o, v = .obj o
      · obtain ⟨o, rfl⟩ := hv
        exact ⟨o, rfl, (Layout.decode_overlays (hobj o rfl)).1 h⟩
      · exact absurd h (LawfulLayout.decode_ne_ok harr (fun o ho => hv ⟨o, ho⟩) s)
    · rintro ⟨o, rfl, hover⟩
      exact (Layout.decode_overlays (hobj o rfl)).2 hover
  read_congr h := by
    rcases h with rfl | ⟨o, o', rfl, rfl, halike⟩
    · rfl
    · exact Layout.decode_alike halike
  not_null s := by
    rintro ⟨o, ho, -⟩
    cases ho

/-! ### The settings -/

instance : LawfulLayout SearchSettings where
  settings := [⟨"candidate_k", UInt32, (·.candidateK), .nat32⟩,
    ⟨"limit", UInt32, (·.limit), .nat32⟩, ⟨"fusion", FusionMode, (·.fusion), .fusion⟩,
    ⟨"rrf_k", UInt32, (·.rankOffset), .nat32⟩,
    ⟨"vector_weight", Float, (·.vectorWeight), .double⟩,
    ⟨"text_weight", Float, (·.textWeight), .double⟩]
  default := .default
  make := SearchSettings.mk
  make_values _ := rfl
  values_make _ := rfl
  decode_obj o := by
    change SearchSettings.read .strict (.obj o) = _
    simp only [SearchSettings.read, Reading.map_eq_seq]
    rfl
  decode_ne_ok := readRecord_ne_ok

instance : LawfulLayout GraphSettings where
  settings := [⟨"max_hops", UInt32, (·.maxHops), .nat32⟩,
    ⟨"max_results", UInt32, (·.maxResults), .nat32⟩,
    ⟨"preview_chars", UInt64, (·.previewChars), .nat64⟩]
  default := .default
  make := GraphSettings.mk
  make_values _ := rfl
  values_make _ := rfl
  decode_obj o := by
    change GraphSettings.read .strict (.obj o) = _
    simp only [GraphSettings.read, Reading.map_eq_seq]
    rfl
  decode_ne_ok := readRecord_ne_ok

instance : LawfulLayout StoreSettings where
  settings := [⟨"database_url", String, (·.databaseUrl), .text⟩,
    ⟨"schema", String, (·.schema), .text⟩,
    ⟨"pool_min_size", UInt32, (·.poolMin), .nat32⟩, ⟨"pool_max_size", UInt32, (·.poolMax), .nat32⟩,
    ⟨"acquire_timeout_secs", UInt64, (·.acquireTimeoutSecs), .nat64⟩,
    ⟨"idle_timeout_secs", UInt64, (·.idleTimeoutSecs), .nat64⟩,
    ⟨"vector_dim", UInt64, (·.vectorDim), .nat64⟩, ⟨"include_commerce", Bool, (·.commerce), .flag⟩,
    ⟨"include_news", Bool, (·.news), .flag⟩, ⟨"auto_migrate", Bool, (·.autoMigrate), .flag⟩,
    ⟨"search", SearchSettings, (·.search), .section SearchSettings⟩,
    ⟨"graph", GraphSettings, (·.graph), .section GraphSettings⟩]
  default := .default
  make := StoreSettings.mk
  make_values _ := rfl
  values_make _ := rfl
  decode_obj o := by
    change StoreSettings.read .strict (.obj o) = _
    simp only [StoreSettings.read, Reading.map_eq_seq]
    rfl
  decode_ne_ok := readRecord_ne_ok

instance : LawfulLayout CacheSettings where
  settings := [⟨"ttl_secs", UInt64, (·.ttlSecs), .nat64⟩,
    ⟨"max_entries", UInt64, (·.maxEntries), .nat64⟩]
  default := .default
  make := CacheSettings.mk
  make_values _ := rfl
  values_make _ := rfl
  decode_obj o := by
    change CacheSettings.read .strict (.obj o) = _
    simp only [CacheSettings.read, Reading.map_eq_seq]
    rfl
  decode_ne_ok := readRecord_ne_ok

instance : LawfulLayout ServiceSettings where
  settings := [⟨"log_level", String, (·.logLevel), .text⟩, ⟨"log_json", Bool, (·.logJson), .flag⟩,
    ⟨"store", StoreSettings, (·.store), .section StoreSettings⟩,
    ⟨"embedding_cache", CacheSettings, (·.cache), .section CacheSettings⟩]
  default := .default
  make := ServiceSettings.mk
  make_values _ := rfl
  values_make _ := rfl
  decode_obj o := by
    change ServiceSettings.read .strict (.obj o) = _
    simp only [ServiceSettings.read, Reading.map_eq_seq]
    rfl
  decode_ne_ok := readRecord_ne_ok

/-! ### All kinds -/

/-- The kinds of settings: those of a store and of a service, and of their sections. -/
inductive SettingsKind where
  | search | graph | store | cache | service

/-- A type of settings with its layout. -/
structure LaidOut where
  Value : Type
  [codec : Codec Value]
  [layout : LawfulLayout Value]

namespace SettingsKind

/-- The settings of a kind. -/
def type : SettingsKind → LaidOut
  | .search => ⟨SearchSettings⟩
  | .graph => ⟨GraphSettings⟩
  | .store => ⟨StoreSettings⟩
  | .cache => ⟨CacheSettings⟩
  | .service => ⟨ServiceSettings⟩

/-- Settings of a kind. -/
abbrev Value (k : SettingsKind) : Type := k.type.Value

instance (k : SettingsKind) : Codec k.Value := k.type.codec

instance (k : SettingsKind) : LawfulLayout k.Value := k.type.layout

/-- **A document overlays the defaults.**  An object without arrays in place of sections is read
exactly when every setting that it names, in itself or in a section, has a value of its type, which
`null` never is.  The settings are then what the object gives, and the defaults where it gives
nothing, in the sections as well.  Members that no setting has the name of count nowhere: without
them the same settings are read, or the same error is reported. -/
theorem overlays (k : SettingsKind) {o : Fields} (h : Layout.Plain k.Value o) :
    ((∃ s : k.Value, decode (.obj o) = .ok s) ↔ Layout.WellTyped k.Value o) ∧
      (∀ s : k.Value, decode (.obj o) = .ok s ↔ Layout.Overlays o s) ∧
      (∀ o', Layout.Alike k.Value o o' →
        (decode (.obj o') : Except DecodeError k.Value) = decode (.obj o)) ∧
      ∀ x ∈ Layout.settings (S := k.Value), ∀ a, ¬ x.form.Gives .null a := by
  refine ⟨?_, fun s => Layout.decode_overlays h, ?_, fun x _ a => x.form.not_null a⟩
  · rw [← Layout.exists_overlays]
    exact exists_congr fun s => Layout.decode_overlays h
  · intro o' halike
    exact (Layout.decode_alike halike).symm

/-- An address, the limit of one section, and members that mean nothing. -/
def limited : Fields :=
  [("database_url", .str "postgres://x"), ("colour", .null),
    ("search", .obj [("limit", .int 3), ("colour", .str "red")])]

theorem overlays_limited :
    Layout.Plain (Value .store) limited ∧
      Layout.Overlays limited ({ StoreSettings.default with
        databaseUrl := "postgres://x", search := { SearchSettings.default with limit := 3 } } :
          StoreSettings) := by
  have hsearch : Layout.Plain SearchSettings [("limit", .int 3), ("colour", .str "red")] := by
    intro x hx v _
    simp only [Layout.settings, List.mem_cons, List.not_mem_nil, or_false] at hx
    rcases hx with rfl | rfl | rfl | rfl | rfl | rfl
    all_goals trivial
  have hplain : Layout.Plain StoreSettings limited := by
    intro x hx v hv
    simp only [Layout.settings, List.mem_cons, List.not_mem_nil, or_false] at hx
    rcases hx with rfl | rfl | rfl | rfl | rfl | rfl | rfl | rfl | rfl | rfl | rfl | rfl
    any_goals trivial
    -- the section that the document gives is left
    cases hv
    exact ⟨nofun, fun o ho => Json.obj.inj ho ▸ hsearch⟩
  exact ⟨hplain, ((overlays .store hplain).2.1 _).1 rfl⟩

end SettingsKind

end KnowledgeBase
