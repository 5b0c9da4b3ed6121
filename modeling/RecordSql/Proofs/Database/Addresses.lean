import RecordSql.Database.Source

/-! # Databases named by an address

The address of a data source that is no url with a path names its database behind a slash, and
options may follow behind a question mark. The name is looked for behind the last slash. So it is
found exactly if the options hold no slash, or name the same database behind their last one.
-/

namespace RecordSql

def Url.isHierarchical (address : String) : Bool :=
  match read address with
  | .ok url => url.path.isSome
  | .error _ => false

namespace Source

def optionsText : Option String → String
  | none => ""
  | some options => "?" ++ options

/-- An address names a database behind a slash, and may go on with options. -/
structure Locates (address start db : String) (options : Option String) : Prop where
  address_eq : address = start ++ "/" ++ db ++ optionsText options
  ne_empty : db ≠ ""
  slash_not_mem : '/' ∉ db.toList
  mark_not_mem : '?' ∉ db.toList

/-- Options name a database behind their last slash, up to a question mark or their end. -/
def EndsIn (options db : String) : Prop :=
  ∃ start rest, options = start ++ "/" ++ db ++ rest ∧ '/' ∉ rest.toList ∧
    ∀ c ∈ rest.toList.head?, c = '?'

variable {s : Source} {front back name : List Char}

theorem behindLastSlash?_append (front : List Char) (h : '/' ∉ back) :
    behindLastSlash? (front ++ '/' :: back) = some back := by
  have hb : ∀ c ∈ back.reverse, (c != '/') = true := by
    intro c hc
    simpa using fun he : c = '/' => h (he ▸ List.mem_reverse.mp hc)
  rw [behindLastSlash?, if_pos (by simp), List.reverse_append, List.reverse_cons,
    List.append_assoc, List.takeWhile_append_of_pos hb]
  simp

theorem exists_last_slash {text : List Char} (h : '/' ∈ text) :
    ∃ front back, text = front ++ '/' :: back ∧ '/' ∉ back := by
  obtain ⟨back, front, he, hb⟩ := List.eq_append_cons_of_mem (List.mem_reverse.mpr h)
  refine ⟨front.reverse, back.reverse, ?_, by simpa using hb⟩
  rw [← text.reverse_reverse, he]
  simp

theorem takeWhile_name (h : '?' ∉ name) (hb : ∀ c ∈ back.head?, c = '?') :
    (name ++ back).takeWhile (· != '?') = name := by
  have hn : ∀ c ∈ name, (c != '?') = true := by
    intro c hc
    simpa using fun he : c = '?' => h (he ▸ hc)
  rw [List.takeWhile_append_of_pos hn]
  cases back with
  | nil => simp
  | cons c back => simp [hb c rfl]

theorem nonEmpty?_eq_some_iff {db : String} (h : db ≠ "") :
    nonEmpty? name = some db ↔ name = db.toList := by
  cases name with
  | nil => exact iff_of_false nofun fun he => h (String.toList_eq_nil_iff.mp he.symm)
  | cons c name => simp [nonEmpty?, ← String.toList_inj]

theorem endsIn_of_takeWhile {options db : String} (ho : options.toList = front ++ '/' :: back)
    (hb : '/' ∉ back) (hn : back.takeWhile (· != '?') = db.toList) : EndsIn options db := by
  refine ⟨String.ofList front, String.ofList (back.dropWhile (· != '?')), ?_, ?_, ?_⟩
  · rw [← String.toList_inj, ho]
    simp [← hn]
  · simpa using fun hm => hb ((List.dropWhile_suffix _).subset hm)
  · intro c hc
    have hd := List.head?_dropWhile_not (· != '?') back
    rw [String.toList_ofList, Option.mem_def] at hc
    rw [hc] at hd
    simpa using hd

theorem databaseName?_of_append (hu : Url.isHierarchical s.address = false)
    (ha : s.address.toList = front ++ '/' :: back) (hb : '/' ∉ back) :
    s.databaseName? = nonEmpty? (back.takeWhile (· != '?')) := by
  rw [databaseName?]
  split
  · next hr => simp [Url.isHierarchical, hr] at hu
  · rw [ha, behindLastSlash?_append front hb, Option.bind_some]

theorem databaseName?_of_name {db : String} (hu : Url.isHierarchical s.address = false)
    (ha : s.address.toList = front ++ '/' :: (db.toList ++ back)) (hd : db ≠ "")
    (hs : '/' ∉ db.toList) (hq : '?' ∉ db.toList) (hb : '/' ∉ back)
    (hm : ∀ c ∈ back.head?, c = '?') : s.databaseName? = some db := by
  rw [databaseName?_of_append hu ha (by simp [hs, hb]), takeWhile_name hq hm,
    nonEmpty?_eq_some_iff hd]

variable {start db : String} {options : Option String}

theorem head?_optionsText : ∀ c ∈ (optionsText options).toList.head?, c = '?' := by
  cases options <;> simp [optionsText]

theorem Locates.toList_address (h : Locates s.address start db options) :
    s.address.toList = start.toList ++ '/' :: (db.toList ++ (optionsText options).toList) := by
  simp [h.address_eq]

/-- The database that an address names is found exactly if the options hold no slash, or name it
behind their last one. -/
theorem database_found_iff (h : Locates s.address start db options)
    (hu : Url.isHierarchical s.address = false) :
    s.databaseName? = some db ↔ ∀ o ∈ options, '/' ∈ o.toList → EndsIn o db := by
  have ha := h.toList_address
  obtain ⟨-, hd, hs, hq⟩ := h
  constructor
  · rintro hn o rfl ho
    obtain ⟨front, back, he, hb⟩ := exists_last_slash ho
    have hf : s.address.toList =
        start.toList ++ '/' :: (db.toList ++ '?' :: front) ++ '/' :: back := by
      simp [ha, optionsText, he]
    rw [databaseName?_of_append hu hf hb, nonEmpty?_eq_some_iff hd] at hn
    exact endsIn_of_takeWhile he hb hn
  · intro hn
    -- the last slash is in the options, or else it is the one in front of the name
    by_cases ho : '/' ∈ (optionsText options).toList
    · cases options with
      | none => simp [optionsText] at ho
      | some o =>
        obtain ⟨front, rest, rfl, hr, hm⟩ := hn o rfl (by simpa [optionsText] using ho)
        have hf : s.address.toList = start.toList ++ '/' :: (db.toList ++ '?' :: front.toList) ++
            '/' :: (db.toList ++ rest.toList) := by
          simp [ha, optionsText]
        exact databaseName?_of_name hu hf hd hs hq hr hm
    · exact databaseName?_of_name hu ha hd hs hq ho head?_optionsText

def socketSource : Source :=
  ofDialect .mysql "root:secret@unix(/run/mysqld.sock)/shop?charset=utf8"

theorem database_found_socket :
    Locates socketSource.address "root:secret@unix(/run/mysqld.sock)" "shop" (some "charset=utf8") ∧
      Url.isHierarchical socketSource.address = false ∧
      socketSource.databaseName? = some "shop" := by
  have hl : Locates socketSource.address "root:secret@unix(/run/mysqld.sock)" "shop"
      (some "charset=utf8") := ⟨rfl, by decide, by decide, by decide⟩
  have hu : Url.isHierarchical socketSource.address = false := by decide +kernel
  refine ⟨hl, hu, (database_found_iff hl hu).mpr ?_⟩
  rintro o ⟨⟩ ho
  exact absurd ho (by decide)

def zonedSource : Source :=
  ofDialect .mysql "root:secret@tcp(127.0.0.1:3306)/shop?loc=Europe/Paris"

/-- The name of a time zone is taken for that of a database. -/
theorem zone_taken_for_database :
    Locates zonedSource.address "root:secret@tcp(127.0.0.1:3306)" "shop"
        (some "loc=Europe/Paris") ∧
      Url.isHierarchical zonedSource.address = false ∧
      zonedSource.databaseName? = some "Paris" :=
  ⟨⟨rfl, by decide, by decide, by decide⟩, by decide +kernel, by decide +kernel⟩

end Source

end RecordSql
