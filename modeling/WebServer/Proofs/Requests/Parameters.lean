import Mathlib.Data.List.DropRight
import WebServer.Http.Multipart
import WebServer.Proofs.Requests.Written

/-!
# Parameters in quotes

A field value such as `form-data; name="x"; filename="y"` is written with the values of its
parameters in quotes, and `parameter?` looks one of them up. It cuts at each semicolon before it
looks at a quote. So it finds what was written as long as there is no semicolon in the quotes;
behind one it takes what is in the quotes for parameters of their own (`quoted_parameters_found`).
-/
namespace WebServer.Http

open Head (IsToken asciiText asciiText_encode)

section Split

variable {mark : Char}

/-- Texts that a mark stands in front of are split each for itself. -/
theorem splitOn_flatMap {α : Type} (front : List Char) (items : List α) (write : α → List Char) :
    (front ++ items.flatMap fun item => mark :: write item).splitOn mark =
      front.splitOn mark ++ items.flatMap fun item => (write item).splitOn mark := by
  induction items generalizing front with
  | nil => simp
  | cons item items ih =>
    rw [List.flatMap_cons, List.cons_append, List.splitOn_append_cons_self, ih, List.flatMap_cons]

theorem findSome?_flatMap {α β γ : Type} (f : β → Option γ) (g : α → List β) (l : List α) :
    (l.flatMap g).findSome? f = l.findSome? fun x => (g x).findSome? f := by
  induction l with
  | nil => rfl
  | cons x l ih =>
    rw [List.flatMap_cons, List.findSome?_append, ih, List.findSome?_cons]
    cases (g x).findSome? f <;> rfl

end Split

/-- A parameter behind its semicolon, with its value in quotes. -/
def quotedParameter (parameter : String × String) : List Char :=
  ' ' :: (parameter.1.toList ++ '=' :: '"' :: (parameter.2.toList ++ ['"']))

/-- A field value with parameters. -/
def withParameters (kind : String) (parameters : List (String × String)) : String :=
  String.ofList
    (kind.toList ++ parameters.flatMap fun parameter => ';' :: quotedParameter parameter)

/-- A parameter that can be written with quotes around its value. -/
structure Quotable (parameter : String × String) : Prop where
  name : IsToken parameter.1
  value : '"' ∉ parameter.2.toList

instance (parameter : String × String) : Decidable (Quotable parameter) :=
  decidable_of_iff (IsToken parameter.1 ∧ '"' ∉ parameter.2.toList)
    ⟨fun h => ⟨h.1, h.2⟩, fun h => ⟨h.name, h.value⟩⟩

/-- What the lookup makes of the text between two semicolons. -/
def readParameter? (key : String) (item : List Char) : Option String :=
  match Text.cutOnce? '=' item with
  | none => none
  | some (name, text) =>
    if Text.sameIgnoringCase (String.ofList (Text.trim name)) key then
      some (String.ofList (Text.trimBy (· == '"') (Text.trim text)))
    else none

/-- What the lookup finds in a parameter, or in what it takes for parameters in the quotes. -/
def foundIn? (key : String) (parameter : String × String) : Option String :=
  ((quotedParameter parameter).splitOn ';').findSome? (readParameter? key)

theorem parameter?_withParameters {kind : String} (plain : ';' ∉ kind.toList)
    (parameters : List (String × String)) (key : String) :
    parameter? (withParameters kind parameters) key = parameters.findSome? (foundIn? key) := by
  have pieces : (withParameters kind parameters).toList.splitOn ';' =
      [kind.toList] ++
        parameters.flatMap fun parameter => (quotedParameter parameter).splitOn ';' := by
    rw [withParameters, String.toList_ofList, splitOn_flatMap, List.splitOn_eq_singleton plain]
  have read : parameter? (withParameters kind parameters) key =
      (((withParameters kind parameters).toList.splitOn ';').drop 1).findSome?
        (readParameter? key) := rfl
  rw [read, pieces, List.singleton_append, List.drop_one, List.tail_cons, findSome?_flatMap]
  rfl

/-- A token has neither blanks in it nor the marks that separate parameters. -/
theorem Head.IsToken.chars {name : String} (token : IsToken name) :
    ∀ c ∈ name.toList, Text.isBlank c = false ∧ c ≠ '=' ∧ c ≠ ';' := by
  have bytes : ∀ n < 256, Text.isTokenByte (UInt8.ofNat n) = true →
      Text.isBlank (Char.ofNat n) = false ∧ Char.ofNat n ≠ '=' ∧ Char.ofNat n ≠ ';' := by
    decide +kernel
  have text := asciiText_encode token
  intro c member
  rw [← text, asciiText, String.toList_ofList, List.mem_map] at member
  obtain ⟨b, among, rfl⟩ := member
  exact bytes b.toNat b.toNat_lt (by rw [UInt8.ofNat_toNat]; exact token.2 b among)

theorem trim_name {name : String} (token : IsToken name) :
    String.ofList (Text.trim (' ' :: name.toList)) = name := by
  have trimmed : Text.Trimmed Text.isBlank name.toList :=
    ⟨fun c first => (token.chars c (List.mem_of_head? first)).1,
      fun c last => (token.chars c (List.mem_of_getLast? last)).1⟩
  have blank : Text.trim (' ' :: name.toList) = Text.trim name.toList := rfl
  rw [blank, Text.trim, trimmed.trimBy_eq, String.ofList_toList]

/-- A text behind a name and `=` is read as the value of that name. -/
theorem readParameter?_named {name : String} (token : IsToken name) (key : String)
    (text : List Char) :
    readParameter? key (' ' :: (name.toList ++ '=' :: text)) =
      if Text.sameIgnoringCase name key then
        some (String.ofList (Text.trimBy (· == '"') (Text.trim text)))
      else none := by
  have noMark : '=' ∉ ' ' :: name.toList := by
    intro member
    rcases List.mem_cons.1 member with blank | within
    · cases blank
    · exact (token.chars '=' within).2.1 rfl
  have cut : Text.cutOnce? '=' (' ' :: (name.toList ++ '=' :: text)) =
      some (' ' :: name.toList, text) := Text.cutOnce?_append noMark text
  rw [readParameter?, cut]
  simp only [trim_name token]

theorem trimmed_of_not_mem {mark : Char} {text : List Char} (none : mark ∉ text) :
    Text.Trimmed (· == mark) text := by
  have other : ∀ c ∈ text, (c == mark) = false := by
    intro c member
    rw [beq_eq_false_iff_ne]
    rintro rfl
    exact none member
  exact ⟨fun c first => other c (List.mem_of_head? first),
    fun c last => other c (List.mem_of_getLast? last)⟩

theorem trimBy_concat_quote {value : List Char} (noQuote : '"' ∉ value) :
    Text.trimBy (· == '"') (value ++ ['"']) = value := by
  have trimmed := trimmed_of_not_mem noQuote
  cases value with
  | nil => rfl
  | cons c value =>
    have opens : ((c :: value) ++ ['"']).dropWhile (· == '"') = (c :: value) ++ ['"'] :=
      List.dropWhile_cons_of_neg (by simp [trimmed.first c rfl])
    rw [Text.trimBy, opens, List.reverse_append, List.reverse_singleton, List.singleton_append,
      List.dropWhile_cons_of_pos rfl]
    exact (congrArg _ (congrArg _ (congrArg _ (Text.dropWhile_eq_self trimmed.first).symm))).trans
      trimmed.trimBy_eq

/-- A text that ends in a quote and does not begin with a blank has nothing to trim. -/
theorem trim_concat_quote {text : List Char}
    (first : ∀ c, text.head? = some c → Text.isBlank c = false) :
    Text.trim (text ++ ['"']) = text ++ ['"'] := by
  have trimmed : Text.Trimmed Text.isBlank (text ++ ['"']) := by
    constructor
    · intro c head
      cases text with
      | nil =>
        obtain rfl := Option.some.inj head
        rfl
      | cons d text => exact first c head
    · intro c last
      rw [List.getLast?_concat] at last
      obtain rfl := Option.some.inj last
      rfl
  exact trimmed.trimBy_eq

/-- Between the first quote and the last one the value stands as it was written. -/
theorem trimBy_quotes {value : List Char} (noQuote : '"' ∉ value) :
    Text.trimBy (· == '"') (Text.trim ('"' :: (value ++ ['"']))) = value := by
  have whole : Text.trim ('"' :: value ++ ['"']) = '"' :: value ++ ['"'] :=
    trim_concat_quote fun c head => by
      obtain rfl := Option.some.inj head
      rfl
  rw [← List.cons_append, whole]
  exact trimBy_concat_quote noQuote

/-- Without the last quote the blanks at the end of the value are lost. -/
theorem trimBy_quote {value : List Char} (noQuote : '"' ∉ value) :
    Text.trimBy (· == '"') (Text.trim ('"' :: value)) = value.rdropWhile Text.isBlank := by
  have kept : (value.reverse ++ ['"']).dropWhile Text.isBlank =
      value.reverse.dropWhile Text.isBlank ++ ['"'] := by
    rw [List.dropWhile_append]
    split
    · rename_i none
      rw [List.isEmpty_iff.1 none]
      rfl
    · rfl
  have trimmed : Text.trim ('"' :: value) = '"' :: value.rdropWhile Text.isBlank := by
    rw [Text.trim, Text.trimBy, List.dropWhile_cons_of_neg (by decide), List.reverse_cons, kept,
      List.reverse_append]
    rfl
  have inside : '"' ∉ value.rdropWhile Text.isBlank := fun member =>
    noQuote ((List.rdropWhile_prefix _ _).subset member)
  rw [trimmed]
  exact (trimmed_of_not_mem inside).trimBy_eq

section Found

variable {key : String} {parameter : String × String}

/-- There is no semicolon before the value. -/
theorem not_mem_opening {name : String} (token : IsToken name) {text : List Char}
    (none : ';' ∉ text) : ';' ∉ ' ' :: (name.toList ++ '=' :: '"' :: text) := by
  simp only [List.mem_cons, List.mem_append]
  rintro (blank | within | mark | quote | inside)
  · cases blank
  · exact (token.chars ';' within).2.2 rfl
  · cases mark
  · cases quote
  · exact none inside

/-- Where there is no semicolon in it, a parameter is found under its name with its value. -/
theorem foundIn?_of_plain (quotable : Quotable parameter) (plain : ';' ∉ parameter.2.toList) :
    foundIn? key parameter =
      if Headers.names key parameter then some parameter.2 else none := by
  have whole : ';' ∉ quotedParameter parameter :=
    not_mem_opening quotable.name (by simpa using plain)
  rw [foundIn?, List.splitOn_eq_singleton whole, List.findSome?_singleton, quotedParameter,
    readParameter?_named quotable.name, trimBy_quotes quotable.value, String.ofList_toList]
  rfl

/-- Of a value with a semicolon in it the parameter has what stands before that, and what stands
behind is read as more parameters. -/
theorem foundIn?_of_cut (quotable : Quotable parameter) {before behind : List Char}
    (value : parameter.2.toList = before ++ ';' :: behind) (plain : ';' ∉ before) :
    foundIn? key parameter =
      if Headers.names key parameter then
        some (String.ofList (before.rdropWhile Text.isBlank))
      else ((behind ++ ['"']).splitOn ';').findSome? (readParameter? key) := by
  obtain ⟨name, text⟩ := parameter
  have noQuote : '"' ∉ before := fun member =>
    quotable.value (by rw [value]; exact List.mem_append_left _ member)
  have parts : quotedParameter (name, text) =
      (' ' :: (name.toList ++ '=' :: '"' :: before)) ++ ';' :: (behind ++ ['"']) := by
    simp only [quotedParameter, value, List.cons_append, List.append_assoc]
  have named : Headers.names key (name, text) = Text.sameIgnoringCase name key := rfl
  rw [foundIn?, parts,
    List.splitOn_append_cons_self_of_not_mem (not_mem_opening quotable.name plain),
    List.findSome?_cons, readParameter?_named quotable.name,
    trimBy_quote noQuote, named]
  by_cases same : Text.sameIgnoringCase name key = true
  · rw [if_pos same, if_pos same]
  · rw [if_neg same, if_neg same]

end Found

/-- The value of the first parameter of that name. -/
def valueOf? (parameters : List (String × String)) (key : String) : Option String :=
  (parameters.find? (Headers.names key)).map (·.2)

section Lookup

variable {kind key : String} {parameters before after : List (String × String)}
  {parameter : String × String}

/-- Without semicolons in the values each parameter is a unit. -/
theorem parameter?_of_plain (separate : ';' ∉ kind.toList)
    (written : ∀ p ∈ parameters, Quotable p) (plain : ∀ p ∈ parameters, ';' ∉ p.2.toList)
    (key : String) :
    parameter? (withParameters kind parameters) key = valueOf? parameters key := by
  rw [parameter?_withParameters separate, valueOf?]
  induction parameters with
  | nil => rfl
  | cons p parameters ih =>
    obtain ⟨quotable, others⟩ := List.forall_mem_cons.1 written
    obtain ⟨noSemicolon, plain⟩ := List.forall_mem_cons.1 plain
    rw [List.findSome?_cons, foundIn?_of_plain quotable noSemicolon]
    by_cases named : Headers.names key p = true
    · rw [if_pos named, List.find?_cons_of_pos named]
      rfl
    · rw [if_neg named, List.find?_cons_of_neg named]
      exact ih others plain

/-- The first parameters are passed by if they have other names and no semicolons in them. -/
theorem parameter?_behind (separate : ';' ∉ kind.toList) (written : ∀ p ∈ before, Quotable p)
    (plain : ∀ p ∈ before, ';' ∉ p.2.toList) (others : ∀ p ∈ before, Headers.names key p = false)
    (parameter : String × String) (after : List (String × String)) :
    parameter? (withParameters kind (before ++ parameter :: after)) key =
      (foundIn? key parameter).or (after.findSome? (foundIn? key)) := by
  have passed : before.findSome? (foundIn? key) = none := by
    refine List.findSome?_eq_none_iff.2 fun p member => ?_
    rw [foundIn?_of_plain (written p member) (plain p member), others p member]
    rfl
  rw [parameter?_withParameters separate, List.findSome?_append, passed, Option.none_or,
    List.findSome?_cons]
  cases foundIn? key parameter <;> rfl

/-- A value with a semicolon in it is cut short. -/
theorem parameter?_cut_short (separate : ';' ∉ kind.toList)
    (written : ∀ p ∈ before ++ parameter :: after, Quotable p)
    (plain : ∀ p ∈ before, ';' ∉ p.2.toList) (others : ∀ p ∈ before, Headers.names key p = false)
    {inside behind : List Char} (value : parameter.2.toList = inside ++ ';' :: behind)
    (first : ';' ∉ inside) (named : Headers.names key parameter = true) :
    parameter? (withParameters kind (before ++ parameter :: after)) key =
      some (String.ofList (inside.rdropWhile Text.isBlank)) := by
  obtain ⟨earlier, rest⟩ := List.forall_mem_append.1 written
  have quotable := rest parameter List.mem_cons_self
  rw [parameter?_behind separate earlier plain others, foundIn?_of_cut quotable value first,
    if_pos named, Option.some_or]

/-- What is left of such a value is not the value. -/
theorem rdropWhile_ne {value inside behind : List Char} (whole : value = inside ++ ';' :: behind)
    (p : Char → Bool) : inside.rdropWhile p ≠ value := by
  intro same
  have shorter : (inside.rdropWhile p).length ≤ inside.length :=
    (List.rdropWhile_prefix p inside).length_le
  rw [same, whole, List.length_append, List.length_cons] at shorter
  omega

/-- What looks like a parameter behind a semicolon in the quotes of another one is taken for it. -/
theorem parameter?_forged (separate : ';' ∉ kind.toList)
    (written : ∀ p ∈ before ++ parameter :: after, Quotable p)
    (plain : ∀ p ∈ before, ';' ∉ p.2.toList) (others : ∀ p ∈ before, Headers.names key p = false)
    {inside text : List Char} {name : String}
    (value : parameter.2.toList = inside ++ ';' :: ' ' :: (name.toList ++ '=' :: text))
    (first : ';' ∉ inside) (other : Headers.names key parameter = false) (token : IsToken name)
    (same : Text.sameIgnoringCase name key = true) (last : ';' ∉ text)
    (begins : ∀ c, text.head? = some c → Text.isBlank c = false) :
    parameter? (withParameters kind (before ++ parameter :: after)) key =
      some (String.ofList text) := by
  obtain ⟨earlier, rest⟩ := List.forall_mem_append.1 written
  have quotable := rest parameter List.mem_cons_self
  have noQuote : '"' ∉ text := fun member => quotable.value (by simp [value, member])
  have noName : ';' ∉ ' ' :: name.toList := by
    intro member
    rcases List.mem_cons.1 member with blank | within
    · cases blank
    · exact (token.chars ';' within).2.2 rfl
  have item : ';' ∉ ' ' :: (name.toList ++ '=' :: (text ++ ['"'])) := by
    simpa [last] using noName
  have ends : ' ' :: (name.toList ++ '=' :: text) ++ ['"'] =
      ' ' :: (name.toList ++ '=' :: (text ++ ['"'])) := by simp
  rw [parameter?_behind separate earlier plain others, foundIn?_of_cut quotable value first,
    if_neg (Bool.eq_false_iff.1 other), ends, List.splitOn_eq_singleton item,
    List.findSome?_singleton, readParameter?_named token, if_pos same, trim_concat_quote begins,
    trimBy_concat_quote noQuote, Option.some_or]

end Lookup

/-- Parameters whose values have no semicolons in them are found as units, by every name. The first
one that has a semicolon in its value is cut short there, and what stands behind the semicolon can
be given the form of a parameter with any other name, which is then found in place of a parameter
that comes later. -/
theorem quoted_parameters_found {kind : String} (separate : ';' ∉ kind.toList)
    {parameters : List (String × String)} (written : ∀ p ∈ parameters, Quotable p) :
    ((∀ p ∈ parameters, ';' ∉ p.2.toList) → ∀ key,
      parameter? (withParameters kind parameters) key = valueOf? parameters key) ∧
    ∀ before parameter after, parameters = before ++ parameter :: after →
      (∀ p ∈ before, ';' ∉ p.2.toList) → ∀ inside behind : List Char,
        parameter.2.toList = inside ++ ';' :: behind → ';' ∉ inside →
          ∀ key, (∀ p ∈ before, Headers.names key p = false) →
            (Headers.names key parameter = true →
              valueOf? parameters key = some parameter.2 ∧
              parameter? (withParameters kind parameters) key =
                some (String.ofList (inside.rdropWhile Text.isBlank)) ∧
              inside.rdropWhile Text.isBlank ≠ parameter.2.toList) ∧
            (Headers.names key parameter = false → ∀ (name : String) (text : List Char),
              behind = ' ' :: (name.toList ++ '=' :: text) → IsToken name →
                Text.sameIgnoringCase name key = true → ';' ∉ text →
                  (∀ c, text.head? = some c → Text.isBlank c = false) →
                    parameter? (withParameters kind parameters) key =
                      some (String.ofList text)) := by
  refine ⟨parameter?_of_plain separate written, ?_⟩
  rintro before parameter after rfl plain inside behind value first key others
  constructor
  · intro named
    refine ⟨?_, parameter?_cut_short separate written plain others value first named,
      rdropWhile_ne value _⟩
    have passed : before.find? (Headers.names key) = none :=
      List.find?_eq_none.2 fun p member => Bool.eq_false_iff.1 (others p member)
    rw [valueOf?, List.find?_append, passed, Option.none_or, List.find?_cons_of_pos named]
    rfl
  · rintro other name text rfl token same last begins
    exact parameter?_forged separate written plain others value first other token same last begins

/-- The values may look like parameters themselves, as long as there are no semicolons in them. -/
theorem equals_sign_in_quotes_found :
    let parameters := [("filename", "name=x.bin"), ("Name", " my file "), ("name", "second")]
    parameter? (withParameters "form-data" parameters) "name" = some " my file " := by
  intro parameters
  have written : ∀ p ∈ parameters, Quotable p := by decide +kernel
  have separate : ';' ∉ "form-data".toList := by decide
  have found := (quoted_parameters_found separate written).1 (by decide) "name"
  rw [found]
  decide

/-- The name of a file forges the name of its field. -/
theorem file_name_forges_name :
    let parameters := [("filename", "x; name=evil"), ("name", "upload")]
    withParameters "form-data" parameters =
        "form-data; filename=\"x; name=evil\"; name=\"upload\"" ∧
      (∀ p ∈ parameters, Quotable p ∧ '\r' ∉ p.2.toList ∧ '\n' ∉ p.2.toList) ∧
      valueOf? parameters "name" = some "upload" ∧
      parameter? (withParameters "form-data" parameters) "name" = some "evil" ∧
      parameter? (withParameters "form-data" parameters) "filename" = some "x" := by
  decide +kernel

end WebServer.Http
