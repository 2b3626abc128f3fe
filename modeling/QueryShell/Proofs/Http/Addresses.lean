import QueryShell.Command.Basic
import QueryShell.Http.Url
import QueryShell.Proofs.Http.Codes

/-
Which database an address stands for. `Addresses` says what the address of a database's transactions should
be: the base's own, with the name as one segment of the path. `commitUrl_addresses` says which names have
such an address, namely all but the two dot names and those with line breaks or tabs in them, below which
paths, and that no two of these names share one. The other names go somewhere else
(`not_addresses_tab`).
-/
namespace QueryShell.Http

open Text

/-! ## Dot segments -/

/-- A character whose lower case is `d` is `d` itself, or the capital of it. -/
theorem eq_of_toLower {c d : Char} (h : c.toLower = d) :
    c = d ∨ c.toNat + 32 = d.toNat ∧ 65 ≤ c.toNat ∧ c.toNat ≤ 90 := by
  subst h
  unfold Char.toLower
  split
  · rename_i hupper
    have hlow : 65 ≤ c.toNat := UInt32.le_iff_toNat_le.1 hupper.1
    have hhigh : c.toNat ≤ 90 := UInt32.le_iff_toNat_le.1 hupper.2
    refine .inr ⟨?_, hlow, hhigh⟩
    show c.toNat + 32 = (c.val + _).toNat
    have hval : c.val.toNat = c.toNat := rfl
    simp [UInt32.toNat_add, hval]
    omega
  · exact .inl rfl

theorem eq_of_toLower_mark {c d : Char} (hd : d.toNat < 97) (h : c.toLower = d) : c = d := by
  rcases eq_of_toLower h with rfl | ⟨hsum, hlow, -⟩
  · rfl
  · omega

theorem eq_of_toLower_e {c : Char} (h : c.toLower = 'e') : c = 'e' ∨ c = 'E' := by
  rcases eq_of_toLower h with rfl | ⟨hsum, -, -⟩
  · exact .inl rfl
  · right
    have hcode : c.toNat = 'E'.toNat := by
      have : 'e'.toNat = 101 := rfl
      have : 'E'.toNat = 69 := rfl
      omega
    exact Char.toNat_inj.1 hcode

/-- A dot, written out or as its code. -/
inductive IsDot : List Char → Prop where
  | plain : IsDot ['.']
  | small : IsDot ['%', '2', 'e']
  | capital : IsDot ['%', '2', 'E']

theorem IsDot.decode {dot : List Char} (h : IsDot dot) (rest : List Char) :
    Percent.decode (dot ++ rest) = 46 :: Percent.decode rest := by
  cases h with
  | plain => exact Percent.decode_cons (by decide) rest
  | small => rfl
  | capital => rfl

theorem isDot_of_lower {text : List Char} (h : text.map Char.toLower = ['%', '2', 'e']) : IsDot text := by
  obtain ⟨a, text, rfl, ha, h⟩ := List.map_eq_cons_iff.1 h
  obtain ⟨b, text, rfl, hb, h⟩ := List.map_eq_cons_iff.1 h
  obtain ⟨c, text, rfl, hc, h⟩ := List.map_eq_cons_iff.1 h
  obtain rfl := List.map_eq_nil_iff.1 h
  obtain rfl := eq_of_toLower_mark (by decide) ha
  obtain rfl := eq_of_toLower_mark (by decide) hb
  rcases eq_of_toLower_e hc with rfl | rfl
  · exact .small
  · exact .capital

theorem isDot_of_lower_plain {text : List Char} (h : text.map Char.toLower = ['.']) : IsDot text := by
  obtain ⟨a, text, rfl, ha, h⟩ := List.map_eq_cons_iff.1 h
  obtain rfl := List.map_eq_nil_iff.1 h
  obtain rfl := eq_of_toLower_mark (by decide) ha
  exact .plain

/-- A text that is lower case of one behind the other. -/
theorem exists_isDots {text : List Char} (first second : List Char) (h : text.map Char.toLower = first ++ second)
    (hfirst : ∀ text : List Char, text.map Char.toLower = first → IsDot text)
    (hsecond : ∀ text : List Char, text.map Char.toLower = second → IsDot text) :
    ∃ dot dot', IsDot dot ∧ IsDot dot' ∧ text = dot ++ dot' := by
  obtain ⟨dot, dot', rfl, hdot, hdot'⟩ := List.map_eq_append_iff.1 h
  exact ⟨dot, dot', hfirst dot hdot, hsecond dot' hdot', rfl⟩

/-- A segment with a meaning of its own is one dot or two. -/
theorem segment_cases (text : List Char) :
    Url.segment text = .name text ∨ (Url.segment text = .here ∧ IsDot text) ∨
      Url.segment text = .above ∧ ∃ dot dot', IsDot dot ∧ IsDot dot' ∧ text = dot ++ dot' := by
  have hlower {word : String} (h : (String.ofList text).toLower = word) :
      text.map Char.toLower = word.toList := by
    rw [← h]
    show _ = ((String.ofList text).map Char.toLower).toList
    rw [String.toList_map, String.toList_ofList]
  unfold Url.segment
  split
  · rename_i h
    exact .inr (.inl ⟨rfl, isDot_of_lower_plain (hlower h)⟩)
  · rename_i h
    exact .inr (.inl ⟨rfl, isDot_of_lower (hlower h)⟩)
  · rename_i h
    exact .inr (.inr ⟨rfl, exists_isDots ['.'] _ (hlower h)
      (fun _ => isDot_of_lower_plain) fun _ => isDot_of_lower_plain⟩)
  · rename_i h
    exact .inr (.inr ⟨rfl, exists_isDots ['.'] _ (hlower h)
      (fun _ => isDot_of_lower_plain) fun _ => isDot_of_lower⟩)
  · rename_i h
    exact .inr (.inr ⟨rfl, exists_isDots ['%', '2', 'e'] _ (hlower h)
      (fun _ => isDot_of_lower) fun _ => isDot_of_lower_plain⟩)
  · rename_i h
    exact .inr (.inr ⟨rfl, exists_isDots ['%', '2', 'e'] _ (hlower h)
      (fun _ => isDot_of_lower) fun _ => isDot_of_lower⟩)
  · exact .inl rfl

theorem bytes_injective {first second : String} (h : Utf8.bytes first = Utf8.bytes second) :
    first = second := by
  have htext := Utf8.text?_bytes first
  rw [h, Utf8.text?_bytes second] at htext
  exact String.toList_inj.1 (Option.some.inj htext).symm

/-- The codes of a name, as a segment. -/
def codes (name : String) : List Char :=
  Percent.encode Percent.inSegment name.toList

theorem decode_codes (name : String) : Percent.decode (codes name) = Utf8.bytes name :=
  Percent.decode_encode_bytes (by decide) name

/-- Only the dots themselves are dots when they are encoded. -/
theorem segment_codes_cases (name : String) :
    Url.segment (codes name) = .name (codes name) ∨ (Url.segment (codes name) = .here ∧ name = ".") ∨
      (Url.segment (codes name) = .above ∧ name = "..") := by
  rcases segment_cases (codes name) with
    hname | ⟨hhere, hone⟩ | ⟨habove, dot, dot', hfirst, hsecond, htwo⟩
  · exact .inl hname
  · have hdecode := hone.decode []
    rw [List.append_nil, decode_codes] at hdecode
    have hdot : Utf8.bytes name = Utf8.bytes "." := hdecode
    exact .inr (.inl ⟨hhere, bytes_injective hdot⟩)
  · have hdecode := hsecond.decode []
    rw [List.append_nil] at hdecode
    have hboth := hfirst.decode dot'
    rw [hdecode, ← htwo, decode_codes] at hboth
    have hdots : Utf8.bytes name = Utf8.bytes ".." := hboth
    exact .inr (.inr ⟨habove, bytes_injective hdots⟩)

/-! ## Paths -/

namespace Url

/-- A path without an empty last segment. -/
def stem (path : List (List Char)) : List (List Char) :=
  if path.getLast? = some [] then path.dropLast else path

/-- What is left of a path in front of the segments for a database. -/
def front (path : List (List Char)) : List (List Char) :=
  (openSegment (dropEmptyEnd path)).dropLast

theorem dropLast_openSegment (path : List (List Char)) :
    (openSegment path).dropLast = if path = [[]] then [] else path := by
  unfold openSegment
  split <;> simp

theorem front_eq (path : List (List Char)) : front path = if path = [[], []] then [] else stem path := by
  unfold front stem
  rw [dropLast_openSegment]
  unfold dropEmptyEnd
  rcases List.eq_nil_or_concat path with rfl | ⟨init, last, rfl⟩
  · rfl
  · simp only [List.concat_eq_append, List.length_append, List.length_singleton, List.getLast?_concat,
      List.dropLast_concat, Option.some.injEq]
    by_cases hlast : last = []
    · subst hlast
      cases init <;> simp
    · have hne : init ++ [last] ≠ [[], []] := fun heq =>
        hlast (by simpa using congrArg List.getLast? heq)
      have hne' : init ++ [last] ≠ [[]] := fun heq => hlast (by simpa using congrArg List.getLast? heq)
      simp [hlast, hne, hne']

theorem front_length_le (path : List (List Char)) : (front path).length ≤ (stem path).length := by
  rw [front_eq]
  split
  · exact Nat.zero_le _
  · exact Nat.le_refl _

/-- Only below one path a segment is lost. -/
theorem front_length_lt_iff (path : List (List Char)) :
    (front path).length < (stem path).length ↔ path = [[], []] := by
  rw [front_eq]
  split
  · rename_i h
    subst h
    simp [stem]
  · rename_i h
    simp [h]

/-- What counts of a name. -/
def written (name : String) : String :=
  String.ofList (name.toList.filter (!isBreak ·))

/-- A name of dots, which is no segment. -/
def IsDots (name : String) : Prop :=
  name = "." ∨ name = ".."

instance (name : String) : Decidable (IsDots name) :=
  inferInstanceAs (Decidable (_ ∨ _))

theorem isDots_iff {name : String} : IsDots name ↔ name.toList = ['.'] ∨ name.toList = ['.', '.'] := by
  rw [IsDots, ← String.toList_inj, ← String.toList_inj]
  rfl

theorem openSegment_append (path : List (List Char)) {last : List Char} (h : path ≠ [] ∨ last ≠ []) :
    openSegment (path ++ [last]) = path ++ [last, []] := by
  have hne : path ++ [last] ≠ [[]] := by
    cases path with
    | nil => simpa using h
    | cons first more => simp
  unfold openSegment
  rw [if_neg hne, List.append_assoc]
  rfl

theorem openSegment_length_le (path : List (List Char)) :
    (openSegment path).length ≤ path.length + 1 := by
  unfold openSegment
  split
  · simp
  · simp

/-- What one name makes of a path. -/
inductive Pushes (path : List (List Char)) (name : String) : List (List Char) → Prop where
  | dots : IsDots name → Pushes path name path
  | here : ¬ IsDots name → IsDots (written name) → Pushes path name (openSegment path)
  | above {above : List (List Char)} : ¬ IsDots name → IsDots (written name) →
      above.length ≤ path.length → Pushes path name above
  | name : ¬ IsDots name → Pushes path name ((openSegment path).dropLast ++ [codes (written name)])

/-- The names of dots are left out before the codes are looked at. -/
theorem pushSegment_of_not_dots {name : String} (h : ¬ IsDots name) (path : List (List Char)) :
    pushSegment path name.toList =
      match segment (codes (written name)) with
      | .here => openSegment path
      | .above =>
        if (openSegment path).length > 1 then (openSegment path).dropLast.dropLast ++ [[]]
        else openSegment path
      | .name text => (openSegment path).dropLast ++ [text] := by
  have hdots := mt isDots_iff.2 h
  have hcodes : Percent.encode Percent.inSegment (name.toList.filter (!isBreak ·)) =
      codes (written name) := by
    rw [codes, written, String.toList_ofList]
  rw [← hcodes]
  exact if_neg hdots

theorem pushSegment_name {name : String} (h : ¬ IsDots name) (hwritten : ¬ IsDots (written name))
    (path : List (List Char)) :
    pushSegment path name.toList = (openSegment path).dropLast ++ [codes (written name)] := by
  rw [pushSegment_of_not_dots h]
  rcases segment_codes_cases (written name) with hname | ⟨-, heq⟩ | ⟨-, heq⟩
  · simp only [hname]
  · exact absurd (.inl heq) hwritten
  · exact absurd (.inr heq) hwritten

theorem pushes_pushSegment {path : List (List Char)} (hpath : path ≠ []) (name : String) :
    Pushes path name (pushSegment path name.toList) := by
  have hlength := openSegment_length_le path
  have hpos := List.length_pos_iff.2 hpath
  by_cases h : IsDots name
  · have hsame : pushSegment path name.toList = path := if_pos (isDots_iff.1 h)
    rw [hsame]
    exact .dots h
  · rw [pushSegment_of_not_dots h]
    rcases segment_codes_cases (written name) with hname | ⟨hhere, heq⟩ | ⟨habove, heq⟩
    · simp only [hname]
      exact .name h
    · simp only [hhere]
      exact .here h (.inl heq)
    · simp only [habove]
      refine .above h (.inr heq) ?_
      split
      · simp only [List.length_append, List.length_dropLast, List.length_singleton]
        omega
      · omega

/-! ## The segments of an address -/

/-- A word without dots and codes is put behind a path as it is. -/
theorem pushSegment_word (word : String) (h : ¬ IsDots word) (hwritten : written word = word)
    (hcodes : codes word = word.toList) (path : List (List Char)) :
    pushSegment path word.toList = (openSegment path).dropLast ++ [word.toList] := by
  rw [pushSegment_name h (hwritten.symm ▸ h), hwritten, hcodes]

/-- What one name makes of the path is not much longer than before. -/
theorem pushed_length_le (path : List (List Char)) :
    ((openSegment path).dropLast ++ ["tx".toList, "commit".toList]).length ≤ path.length + 2 := by
  rw [dropLast_openSegment, List.length_append]
  split
  · simp
  · simp

/-- The path of an address up to the name. -/
def databases (path : List (List Char)) : List (List Char) :=
  front path ++ ["db".toList]

theorem openSegment_databases (path : List (List Char)) :
    openSegment (databases path) = databases path ++ [[]] := by
  rw [databases, openSegment_append _ (.inr (by decide)), List.append_assoc]
  rfl

/-- The last two segments stay the same whatever the name makes of the path. -/
theorem commitUrl_path (base : Url) (name : String) :
    (base.commitUrl name).path =
      (openSegment (pushSegment (databases base.path) name.toList)).dropLast ++
        ["tx".toList, "commit".toList] := by
  have hdb := pushSegment_word "db" (by decide) rfl rfl
  have htx := pushSegment_word "tx" (by decide) rfl rfl
  have hcommit := pushSegment_word "commit" (by decide) rfl rfl
  rw [commitUrl]
  simp only [List.foldl_cons, List.foldl_nil]
  rw [hcommit, htx, hdb, openSegment_append _ (.inr (by decide)), databases, front]
  simp

/-- A segment behind the path of the databases has its place in front of the two words. -/
theorem commitUrl_path_of_push {base : Url} {name : String} {segment : List Char}
    (h : pushSegment (databases base.path) name.toList = databases base.path ++ [segment]) :
    (base.commitUrl name).path =
      front base.path ++ ["db".toList, segment, "tx".toList, "commit".toList] := by
  have hne : databases base.path ++ [segment] ≠ [[]] := fun heq => by
    simpa [databases] using congrArg List.length heq
  rw [commitUrl_path, h, dropLast_openSegment, if_neg hne, databases]
  simp

end Url

/-! ## The address of a database -/

/-- Two URLs that differ in their paths at most. -/
structure SameServer (base u : Url) : Prop where
  scheme : u.scheme = base.scheme
  host : u.host = base.host
  port : u.port? = base.port?
  query : u.query? = base.query?

/-- A segment that is read as a name: it stays one segment, and its codes are those of the name. -/
structure Spells (segment : List Char) (name : String) : Prop where
  decoded : Utf8.text? (Percent.decode segment) = some name.toList
  whole : ∀ c ∈ segment, c ≠ '/' ∧ c ≠ '\\' ∧ c ≠ '?' ∧ c ≠ '#'
  plain : Url.segment segment = .name segment

/-- What the address of a database's transactions is below a base address. -/
def Addresses (base : Url) (database : String) (u : Url) : Prop :=
  ∃ segment, Spells segment database ∧
    u.path = Url.stem base.path ++ ["db".toList, segment, "tx".toList, "commit".toList]

/-- A name that can be a segment as it is. -/
structure Addressable (database : String) : Prop where
  notDots : ¬ Url.IsDots database
  unbroken : ∀ c ∈ database.toList, Url.isBreak c = false

theorem written_eq_iff {name : String} :
    Url.written name = name ↔ ∀ c ∈ name.toList, Url.isBreak c = false := by
  rw [← String.toList_inj, Url.written, String.toList_ofList, List.filter_eq_self]
  simp

theorem spells_codes {name : String} (h : ¬ Url.IsDots name) : Spells (codes name) name where
  decoded := by rw [decode_codes, Utf8.text?_bytes]
  whole := by
    intro c hc
    rcases Percent.mem_encode hc with ⟨-, hset⟩ | rfl | ⟨n, hn, rfl⟩
    · refine ⟨?_, ?_, ?_, ?_⟩ <;> rintro rfl <;> exact absurd hset (by decide)
    · decide
    · have hdigits : ∀ n < 16, Percent.hexDigit n ≠ '/' ∧ Percent.hexDigit n ≠ '\\' ∧
          Percent.hexDigit n ≠ '?' ∧ Percent.hexDigit n ≠ '#' := by decide
      exact hdigits n hn
  plain := by
    rcases segment_codes_cases name with hname | ⟨-, heq⟩ | ⟨-, heq⟩
    · exact hname
    · exact absurd (.inl heq) h
    · exact absurd (.inr heq) h

/-- The path of the address of a name that can be a segment. -/
theorem Addressable.path {name : String} (h : Addressable name) (base : Url) :
    (base.commitUrl name).path =
      Url.front base.path ++ ["db".toList, codes name, "tx".toList, "commit".toList] := by
  have hwritten : Url.written name = name := written_eq_iff.2 h.unbroken
  refine Url.commitUrl_path_of_push ?_
  rw [Url.pushSegment_name h.notDots (hwritten.symm ▸ h.notDots), hwritten, Url.openSegment_databases,
    List.dropLast_concat]

/-- The name is read off the path, if the path has a place for it. -/
theorem Addressable.of_addresses {base : Url} {name : String}
    (h : Addresses base name (base.commitUrl name)) : Addressable name ∧ base.path ≠ [[], []] := by
  obtain ⟨segment, hspells, hpath⟩ := h
  have hfront := Url.front_length_le base.path
  have hdatabases : (Url.databases base.path).length = (Url.front base.path).length + 1 := by
    simp [Url.databases]
  have hlength : (Url.stem base.path).length + 4 = (base.commitUrl name).path.length := by
    rw [hpath]
    simp
  have hpushed := Url.pushed_length_le (Url.pushSegment (Url.databases base.path) name.toList)
  rw [← Url.commitUrl_path] at hpushed
  have hne : Url.databases base.path ≠ [] := by simp [Url.databases]
  have hpushes := Url.pushes_pushSegment hne name
  generalize hafter : Url.pushSegment (Url.databases base.path) name.toList = after at hpushes hpushed
  have hwhole {segment' : List Char} (hsegment : after = Url.databases base.path ++ [segment']) :
      segment' = segment ∧ base.path ≠ [[], []] := by
    have hsame := Url.commitUrl_path_of_push (hafter.trans hsegment)
    rw [hpath] at hsame
    obtain ⟨hstem, hrest⟩ := List.append_inj' hsame rfl
    refine ⟨by simpa using hrest.symm, fun hlost => ?_⟩
    have := (Url.front_length_lt_iff base.path).2 hlost
    rw [hstem] at this
    exact absurd this (Nat.lt_irrefl _)
  cases hpushes with
  | dots hdots => omega
  | above hdots hwritten habove => omega
  | here hdots hwritten =>
    obtain ⟨rfl, -⟩ := hwhole (Url.openSegment_databases base.path)
    have hempty : name = "" := String.toList_inj.1 (Option.some.inj hspells.decoded).symm
    subst hempty
    exact absurd hwritten (by decide)
  | name hdots =>
    rw [Url.openSegment_databases, List.dropLast_concat] at hwhole
    obtain ⟨rfl, hbase⟩ := hwhole rfl
    have hdecoded := hspells.decoded
    rw [decode_codes, Utf8.text?_bytes] at hdecoded
    exact ⟨⟨hdots, written_eq_iff.1 (String.toList_inj.1 (Option.some.inj hdecoded))⟩, hbase⟩

/-- Addresses below one base differ in their paths only. -/
theorem pathChars_eq_of_resource (base : Url) (path path' : List (List Char))
    (h : { base with path }.resource = { base with path := path' }.resource) :
    Url.pathChars path = Url.pathChars path' := by
  have hchars := String.ofList_injective h
  simp only [Url.resourceChars, Url.portChars, List.append_assoc] at hchars
  simpa using hchars

/-- An address tells the name. -/
theorem Addressable.injective {base : Url} {name name' : String} (h : Addressable name)
    (h' : Addressable name') (hsame : (base.commitUrl name).resource = (base.commitUrl name').resource) :
    name = name' := by
  have hpath := pathChars_eq_of_resource base (base.commitUrl name).path (base.commitUrl name').path hsame
  rw [h.path, h'.path] at hpath
  have hcodes : codes name = codes name' := by
    simpa [Url.pathChars] using hpath
  exact bytes_injective (by rw [← decode_codes, hcodes, decode_codes])

/-- Below a base address, the address of a database's transactions is at the same server whatever the
name, and it ends in the segments for transactions. It has the name, spelled, as its own segment behind
the path of the base exactly if the name is none of the two dot names and without breaks, and if the base
does not end in two slashes right behind its server. Two of those names never share an address. -/
theorem commitUrl_addresses (base : Url) :
    (∀ database,
      SameServer base (base.commitUrl database) ∧
      (∃ before, (base.commitUrl database).path = before ++ ["tx".toList, "commit".toList]) ∧
      (Addresses base database (base.commitUrl database) ↔
        Addressable database ∧ base.path ≠ [[], []])) ∧
    ∀ first second, Addressable first → Addressable second →
      (base.commitUrl first).resource = (base.commitUrl second).resource → first = second := by
  refine ⟨fun database => ⟨⟨rfl, rfl, rfl, rfl⟩, ⟨_, Url.commitUrl_path base database⟩,
    Addressable.of_addresses, ?_⟩, fun first second h h' => h.injective h'⟩
  rintro ⟨h, hbase⟩
  have hfront : Url.front base.path = Url.stem base.path := by
    rw [Url.front_eq, if_neg hbase]
  exact ⟨codes database, spells_codes h.notDots, hfront ▸ h.path base⟩

theorem commitUrl_addresses_slash :
    ∃ base : Url, base.text = "https://example.org/graph/?user=1" ∧ base.path ≠ [[], []] ∧
      Addressable "a/b?%2e" ∧ Addresses base "a/b?%2e" (base.commitUrl "a/b?%2e") ∧
      (base.commitUrl "a/b?%2e").text =
        "https://example.org/graph/db/a%2Fb%3F%252e/tx/commit?user=1" := by
  have haddressable : Addressable "a/b?%2e" := ⟨by decide, written_eq_iff.1 (by decide)⟩
  refine ⟨⟨"https".toList, "example.org".toList, none, ["graph".toList, []], some "user=1".toList, none⟩,
    ?_, by decide, haddressable, ?_, ?_⟩
  · decide +kernel
  · exact ((commitUrl_addresses _).1 "a/b?%2e").2.2.2 ⟨haddressable, by decide⟩
  · decide +kernel

/-- The shell reads a name with a tab, and its transactions are sent to the database whose name is the
same without the tab. -/
theorem not_addresses_tab :
    Command.parse ":use a\tb" = .ok (.use "a\tb") ∧
    ∃ base : Url, base.text = "http://localhost:7474/" ∧
      (base.commitUrl "a\tb").text = "http://localhost:7474/db/ab/tx/commit" ∧
      base.commitUrl "a\tb" = base.commitUrl "ab" ∧
      ¬ Addresses base "a\tb" (base.commitUrl "a\tb") := by
  refine ⟨?_, ?_⟩
  · rfl
  · refine ⟨⟨"http".toList, "localhost".toList, some 7474, [[]], none, none⟩, ?_, ?_, ?_, ?_⟩
    · decide +kernel
    · decide +kernel
    · decide +kernel
    · intro h
      exact absurd ((Addressable.of_addresses h).1.unbroken '\t' (by decide)) (by decide)

end QueryShell.Http
