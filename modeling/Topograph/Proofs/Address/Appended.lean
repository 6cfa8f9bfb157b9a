import Mathlib.Data.List.Induction
import Mathlib.Data.List.TakeWhile
import Topograph.Address.Basic

/-!
# Addresses with a path appended

An absolute address can be followed by a path. Scheme, user, host and port are read as before. The
path goes on after what was there, as long as no query and no fragment stood between.
-/
namespace Topograph.Address
open Topograph.Number

/-! ## What an address is read from -/

/-- The authority without its user. -/
def place (authority : List Char) : List Char := (splitLast '@' authority).2

/-- The host of an authority as it is written; it may be absent. -/
def hostOf? (authority : List Char) : Option (List Char) :=
  let chars := (splitHost (place authority)).1
  if chars.isEmpty then some [] else Host.write? chars

/-- The port of an authority, for the scheme in front of it. -/
def portOf? (scheme authority : List Char) : Option (Option Int) :=
  port? (String.ofList scheme) (splitHost (place authority)).2

def userOf (authority : List Char) : List Char := (splitLast '@' authority).1.getD []

/-- A character that neither a query nor a fragment begins with. -/
def isBeforeQuery (c : Char) : Bool := c != '?' && c != '#'

/-- The path at the front of what follows the authority. -/
def pathOf (rest : List Char) : List Char := rest.takeWhile isBeforeQuery

def queryOf (rest : List Char) : Option (List Char) × List Char :=
  splitAfter '?' (· != '#') (rest.dropWhile isBeforeQuery)

def hasAuthority (authority host : List Char) (port : Option Int) : Bool :=
  !(userOf authority).isEmpty || !host.isEmpty || port.isSome

/-- The address of the parts that a text was split into. -/
def ofParts (scheme authority rest host : List Char) (port : Option Int) : Address where
  scheme := String.ofList (scheme.map Written.lower)
  user := escaped isUserChar (userOf authority)
  host := String.ofList host
  port
  path := escaped isPathChar
    (if !scheme.isEmpty || hasAuthority authority host port then resolved (pathOf rest)
      else pathOf rest)
  query := (queryOf rest).1.map (escaped isQueryChar)
  fragment := (splitAfter '#' (fun _ => true) (queryOf rest).2).1.map (escaped isFragmentChar)

/-- The address of a scheme, an authority and the rest, if these make one. -/
def ofSplit? (scheme authority rest : List Char) : Option Address :=
  (hostOf? authority).bind fun host => (portOf? scheme authority).bind fun port =>
    if isPathAllowed (!scheme.isEmpty) (hasAuthority authority host port) (pathOf rest) then
      some (ofParts scheme authority rest host port)
    else none

/-- Reading is splitting, and then looking at the parts. -/
theorem read?_eq (s : String) : read? s =
    if lengthLimit < s.toList.length || s.toList.any isControl then none
    else ofSplit? (splitScheme s.toList).1 (splitAuthority (splitScheme s.toList).2).1
      (splitAuthority (splitScheme s.toList).2).2 := by
  unfold read?
  simp only
  split
  · rfl
  · by_cases absent :
      (splitHost (place (splitAuthority (splitScheme s.toList).2).1)).1.isEmpty = true
    · have host : hostOf? (splitAuthority (splitScheme s.toList).2).1 = some [] := if_pos absent
      rw [ofSplit?, host]
      exact if_pos absent
    · have host : hostOf? (splitAuthority (splitScheme s.toList).2).1 =
        Host.write? (splitHost (place (splitAuthority (splitScheme s.toList).2).1)).1 :=
        if_neg absent
      rw [ofSplit?, host]
      exact if_neg absent

theorem ofSplit?_eq_some {scheme authority rest : List Char} {a : Address}
    (h : ofSplit? scheme authority rest = some a) : ∃ host port, hostOf? authority = some host ∧
      portOf? scheme authority = some port ∧ ofParts scheme authority rest host port = a := by
  obtain ⟨host, hhost, h⟩ := Option.bind_eq_some_iff.mp h
  obtain ⟨port, hport, h⟩ := Option.bind_eq_some_iff.mp h
  split at h
  · exact ⟨host, port, hhost, hport, Option.some.inj h⟩
  · exact absurd h (by simp)

/-! ## Splitting what has a path at its end -/

theorem takeWhile_append_of_stop {p : Char → Bool} {cs ds : List Char}
    (h : ∀ c ∈ ds.head?, p c = false) : (cs ++ ds).takeWhile p = cs.takeWhile p := by
  have stop : ds.takeWhile p = [] := by
    cases ds with
    | nil => rfl
    | cons d ds => simp [h d rfl]
  induction cs with
  | nil => simpa using stop
  | cons c cs ih => by_cases hc : p c <;> simp [hc, ih]

theorem dropWhile_append_of_stop {p : Char → Bool} {cs ds : List Char}
    (h : ∀ c ∈ ds.head?, p c = false) : (cs ++ ds).dropWhile p = cs.dropWhile p ++ ds := by
  have stop : ds.dropWhile p = ds := by
    cases ds with
    | nil => rfl
    | cons d ds => simp [h d rfl]
  induction cs with
  | nil => simpa using stop
  | cons c cs ih => by_cases hc : p c <;> simp [hc, ih]

theorem splitScheme_append {cs : List Char} (h : (splitScheme cs).1 ≠ []) (path : List Char) :
    splitScheme (cs ++ path) = ((splitScheme cs).1, (splitScheme cs).2 ++ path) := by
  unfold splitScheme at h ⊢
  simp only at h ⊢
  split at h
  case h_1 rest hrest =>
    split at h
    case isTrue hletter =>
      -- The colon is in front of the path, so the scheme cannot reach into it.
      have hname : (cs ++ path).takeWhile isSchemeChar = cs.takeWhile isSchemeChar := by
        rw [List.takeWhile_append, if_neg]
        intro hlength
        have hsplit :=
          congrArg List.length (List.takeWhile_append_dropWhile (p := isSchemeChar) (l := cs))
        rw [List.length_append, hlength, hrest] at hsplit
        simp at hsplit
      have hdrop : (cs ++ path).dropWhile isSchemeChar = ':' :: (rest ++ path) := by
        rw [List.dropWhile_append, hrest]
        rfl
      simp only [hname, hdrop, if_pos hletter]
    case isFalse => exact absurd rfl h
  case h_2 => exact absurd rfl h

theorem splitAuthority_append {cs path : List Char} (h : (splitAuthority cs).1 ≠ [])
    (rooted : ∀ c ∈ path.head?, c = '/') :
    splitAuthority (cs ++ path) = ((splitAuthority cs).1, (splitAuthority cs).2 ++ path) := by
  unfold splitAuthority at h ⊢
  split at h
  case h_1 rest =>
    have stop : ∀ c ∈ path.head?, (c != '/' && c != '?' && c != '#') = false := fun c hc => by
      rw [rooted c hc]; rfl
    simp only [List.cons_append]
    rw [takeWhile_append_of_stop stop, dropWhile_append_of_stop stop]
  case h_2 => exact absurd rfl h

/-- What follows an authority begins with a slash or with the mark of a query or a fragment. -/
theorem head_splitAuthority {cs : List Char} (h : (splitAuthority cs).1 ≠ []) :
    ∀ c ∈ (splitAuthority cs).2.head?, isBeforeQuery c = true → c = '/' := by
  unfold splitAuthority at h ⊢
  split at h
  case h_1 rest =>
    intro c hc before
    have hstop := List.head?_dropWhile_not (fun c => c != '/' && c != '?' && c != '#') rest
    simp only [Option.mem_def] at hc
    rw [hc] at hstop
    simp only [isBeforeQuery] at before
    simp_all
  case h_2 => exact absurd rfl h

/-- A path that begins with a slash, or an empty one, may follow an authority. -/
theorem isPathAllowed_append {cs path : List Char} (h : (splitAuthority cs).1 ≠ [])
    (rooted : ∀ c ∈ path.head?, c = '/') (hasScheme : Bool) :
    isPathAllowed hasScheme true (pathOf ((splitAuthority cs).2 ++ path)) = true := by
  have hhead := head_splitAuthority h
  generalize (splitAuthority cs).2 = rest at hhead
  have hall : ∀ c ∈ (rest ++ path).head?, isBeforeQuery c = true → c = '/' := by
    cases rest with
    | nil => exact fun c hc _ => rooted c hc
    | cons d rest => exact hhead
  generalize rest ++ path = ds at hall
  cases ds with
  | nil => rfl
  | cons d ds =>
    by_cases hd : isBeforeQuery d
    · have slash : d = '/' := hall d rfl hd
      simp [isPathAllowed, pathOf, slash, isBeforeQuery]
    · simp [isPathAllowed, pathOf, hd]

/-! ## Reading what has a path at its end -/

theorem authority_ne_nil {authority host : List Char} (h : hostOf? authority = some host)
    (nonempty : host ≠ []) : authority ≠ [] := by
  rintro rfl
  exact nonempty (Option.some.inj h).symm

theorem isAbsolute_ofParts {scheme authority rest host : List Char} {port : Option Int} :
    (ofParts scheme authority rest host port).isAbsolute = true ↔ scheme ≠ [] ∧ host ≠ [] := by
  simp [isAbsolute, ofParts]

/-- With a path appended, an absolute address has the same scheme, user, host and port. -/
theorem read?_append {base path : String} {a : Address} (h : read? base = some a)
    (absolute : a.isAbsolute = true) (rooted : ∀ c ∈ path.toList.head?, c = '/')
    (control : path.toList.any isControl = false)
    (length : base.length + path.length ≤ lengthLimit) :
    ∃ scheme authority rest host port, ofParts scheme authority rest host port = a ∧
      (∀ c ∈ rest.head?, isBeforeQuery c = true → c = '/') ∧
      read? (base ++ path) = some (ofParts scheme authority (rest ++ path.toList) host port) := by
  rw [read?_eq] at h
  split at h
  case isTrue => exact absurd h (by simp)
  case isFalse ok =>
    obtain ⟨host, port, hhost, hport, rfl⟩ := ofSplit?_eq_some h
    obtain ⟨hscheme, hne⟩ := isAbsolute_ofParts.mp absolute
    have hauthority := authority_ne_nil hhost hne
    refine ⟨_, _, _, host, port, rfl, head_splitAuthority hauthority, ?_⟩
    have fits : ¬ (decide (lengthLimit < (base ++ path).toList.length) ||
        (base ++ path).toList.any isControl) = true := by
      simp only [String.toList_append, List.length_append, List.any_append, Bool.or_eq_true,
        decide_eq_true_eq, not_or, Bool.not_eq_true, String.length_toList] at ok ⊢
      exact ⟨by omega, ok.2, control⟩
    have allowed := isPathAllowed_append hauthority rooted (!(splitScheme base.toList).1.isEmpty)
    have named : hasAuthority (splitAuthority (splitScheme base.toList).2).1 host port = true := by
      simp [hasAuthority, hne]
    rw [read?_eq, if_neg fits, String.toList_append, splitScheme_append hscheme,
      splitAuthority_append hauthority rooted, ofSplit?, hhost, Option.bind_some, hport,
      Option.bind_some, named, if_pos allowed]

/-- An absolute address with a path appended is one. -/
theorem exists_read?_append {base path : String} {a : Address} (h : read? base = some a)
    (absolute : a.isAbsolute = true) (rooted : ∀ c ∈ path.toList.head?, c = '/')
    (control : path.toList.any isControl = false)
    (length : base.length + path.length ≤ lengthLimit) :
    ∃ b, read? (base ++ path) = some b ∧ b.isAbsolute = true := by
  obtain ⟨scheme, authority, rest, host, port, rfl, -, hread⟩ :=
    read?_append h absolute rooted control length
  exact ⟨_, hread, isAbsolute_ofParts.mpr (isAbsolute_ofParts.mp absolute)⟩

/-! ## The path that was appended -/

theorem intercalate_append (sep : List Char) {xs ys : List (List Char)} (hx : xs ≠ [])
    (hy : ys ≠ []) :
    sep.intercalate (xs ++ ys) = sep.intercalate xs ++ sep ++ sep.intercalate ys := by
  induction xs with
  | nil => exact absurd rfl hx
  | cons x xs ih =>
    cases xs with
    | nil =>
      rw [List.singleton_append, List.intercalate_cons_of_ne_nil hy, List.intercalate_singleton]
    | cons x' xs =>
      rw [List.cons_append, List.intercalate_cons_of_ne_nil (by simp), ih (by simp),
        List.intercalate_cons_cons]
      simp only [List.append_assoc]

theorem splitOn_append (xs ys : List Char) :
    (xs ++ '/' :: ys).splitOn '/' = xs.splitOn '/' ++ ys.splitOn '/' :=
  List.splitOnP_append_cons xs ys rfl

/-- A segment that stands for itself. -/
def IsPlainSegment (s : List Char) : Prop := s ≠ ['.'] ∧ s ≠ ['.', '.']

instance (s : List Char) : Decidable (IsPlainSegment s) := inferInstanceAs (Decidable (_ ∧ _))

theorem resolveDots_append (xs : List (List Char)) {ys : List (List Char)}
    (h : ∀ s ∈ ys, IsPlainSegment s) : resolveDots (xs ++ ys) = resolveDots xs ++ ys := by
  unfold resolveDots
  rw [List.foldl_append]
  generalize List.foldl _ [] xs = done
  induction ys generalizing done with
  | nil => simp
  | cons s ys ih =>
    have hs := h s (by simp)
    rw [List.foldl_cons, if_neg hs.1, if_neg hs.2, ih fun t ht => h t (by simp [ht])]
    simp

/-- A path from the root stays one. -/
theorem exists_resolveDots (segments : List (List Char)) :
    ∃ rest, resolveDots ([] :: segments) = [] :: rest := by
  induction segments using List.reverseRecOn with
  | nil => exact ⟨[], rfl⟩
  | append_singleton segments s ih =>
    obtain ⟨rest, ih⟩ := ih
    have step : resolveDots ([] :: (segments ++ [s])) =
        if s = ['.'] then [] :: rest
        else if s = ['.', '.'] then (if rest = [] then [[]] else ([] :: rest).dropLast)
        else [] :: rest ++ [s] := by
      unfold resolveDots at ih ⊢
      rw [← List.cons_append, List.foldl_append, ih]
      by_cases hrest : rest = [] <;> simp [hrest]
    rw [step]
    split
    · exact ⟨rest, rfl⟩
    · split
      · cases rest with
        | nil => exact ⟨[], rfl⟩
        | cons r rest => exact ⟨_, by rw [if_neg (by simp), List.dropLast_cons_of_ne_nil (by simp)]⟩
      · exact ⟨_, rfl⟩

theorem resolved_append {cs : List Char} (hcs : ∀ c ∈ cs.head?, c = '/') {path : List Char}
    (plain : ∀ s ∈ path.splitOn '/', IsPlainSegment s) :
    resolved (cs ++ '/' :: path) = resolved cs ++ '/' :: path := by
  have hsplit : ∃ segments, cs.splitOn '/' = [] :: segments := by
    cases cs with
    | nil => exact ⟨[], rfl⟩
    | cons c cs =>
      obtain rfl : c = '/' := hcs c rfl
      exact ⟨_, splitOn_append [] cs⟩
  obtain ⟨segments, hsegments⟩ := hsplit
  obtain ⟨rest, hrest⟩ := exists_resolveDots segments
  unfold resolved
  rw [splitOn_append, hsegments, resolveDots_append _ plain, hrest,
    intercalate_append _ (by simp) (List.splitOn_ne_nil _ _), List.intercalate_splitOn]
  simp

theorem escaped_append (isSafe : Char → Bool) (xs ys : List Char) :
    escaped isSafe (xs ++ ys) = escaped isSafe xs ++ escaped isSafe ys := by
  simp [escaped, Text.Utf8.escape, String.ofList_append]

theorem escaped_of_all {isSafe : Char → Bool} {cs : List Char} (h : cs.all isSafe = true) :
    escaped isSafe cs = String.ofList cs := by
  unfold escaped Text.Utf8.escape
  congr 1
  induction cs with
  | nil => rfl
  | cons c cs ih =>
    rw [List.all_cons, Bool.and_eq_true] at h
    rw [List.flatMap_cons, if_pos h.1, ih h.2]
    rfl

/-- A path from the root without dot segments, whose characters may stand as they are. -/
structure IsPlainPath (path : List Char) : Prop where
  rooted : path.head? = some '/'
  plain : ∀ s ∈ path.tail.splitOn '/', IsPlainSegment s
  safe : path.all isPathChar = true

theorem isBeforeQuery_of_isPathChar {c : Char} (h : isPathChar c = true) :
    isBeforeQuery c = true := by
  simp only [isPathChar, isPrintableBut, isBeforeQuery, Bool.and_eq_true, Bool.not_eq_true',
    bne_iff_ne, ne_eq] at h ⊢
  constructor <;> rintro rfl <;> exact absurd h.2 (by decide)

theorem isControl_of_isPathChar {c : Char} (h : isPathChar c = true) : isControl c = false := by
  simp only [isPathChar, isPrintableBut, Bool.and_eq_true, decide_eq_true_eq] at h
  simp [isControl]
  omega

theorem IsPlainPath.head {path : List Char} (h : IsPlainPath path) :
    ∀ c ∈ path.head?, c = '/' := by
  simp [h.rooted]

theorem IsPlainPath.control {path : List Char} (h : IsPlainPath path) :
    path.any isControl = false := by
  rw [List.any_eq_false]
  intro c hc
  simp [isControl_of_isPathChar (List.all_eq_true.mp h.safe c hc)]

/-- Where neither a query nor a fragment follows the path, nothing does. -/
theorem all_isBeforeQuery {scheme authority rest host : List Char} {port : Option Int}
    (query : (ofParts scheme authority rest host port).query = none)
    (fragment : (ofParts scheme authority rest host port).fragment = none) :
    ∀ c ∈ rest, isBeforeQuery c = true := by
  rw [← List.dropWhile_eq_nil_iff]
  have hquery := Option.map_eq_none_iff.mp query
  have hfragment := Option.map_eq_none_iff.mp fragment
  have hstop := List.head?_dropWhile_not isBeforeQuery rest
  unfold queryOf at hquery hfragment
  generalize rest.dropWhile isBeforeQuery = after at *
  cases after with
  | nil => rfl
  | cons c after =>
    simp only [List.head?_cons, isBeforeQuery, Bool.and_eq_false_imp, bne_iff_ne] at hstop
    by_cases hc : c = '?'
    · simp [splitAfter, hc] at hquery
    · have hash : c = '#' := by simpa using hstop hc
      simp [splitAfter, hash] at hfragment

/-- The address of a base without query and fragment goes on with a plain path. -/
theorem ofParts_append {scheme authority rest host : List Char} {port : Option Int}
    (absolute : (ofParts scheme authority rest host port).isAbsolute = true)
    (query : (ofParts scheme authority rest host port).query = none)
    (fragment : (ofParts scheme authority rest host port).fragment = none)
    (rooted : ∀ c ∈ rest.head?, c = '/') {path : List Char} (h : IsPlainPath path) :
    ofParts scheme authority (rest ++ path) host port =
      { ofParts scheme authority rest host port with
        path := (ofParts scheme authority rest host port).path ++ String.ofList path } := by
  have hscheme : (!scheme.isEmpty) = true := by simp [(isAbsolute_ofParts.mp absolute).1]
  have hrest := all_isBeforeQuery query fragment
  have hall : ∀ c ∈ rest ++ path, isBeforeQuery c = true := by
    intro c hc
    rcases List.mem_append.mp hc with hc | hc
    · exact hrest c hc
    · exact isBeforeQuery_of_isPathChar (List.all_eq_true.mp h.safe c hc)
  have hpath : pathOf rest = rest := List.takeWhile_eq_self_iff.mpr hrest
  have hpaths : pathOf (rest ++ path) = rest ++ path := List.takeWhile_eq_self_iff.mpr hall
  have hquery : queryOf rest = (none, []) := by
    rw [queryOf, List.dropWhile_eq_nil_iff.mpr hrest]; rfl
  have hqueries : queryOf (rest ++ path) = (none, []) := by
    rw [queryOf, List.dropWhile_eq_nil_iff.mpr hall]; rfl
  obtain ⟨name, rfl⟩ : ∃ name, path = '/' :: name := by
    obtain ⟨name, hname⟩ := List.head?_eq_some_iff.mp h.rooted
    exact ⟨name, hname⟩
  have plain : ∀ s ∈ name.splitOn '/', IsPlainSegment s := h.plain
  have hresolved : escaped isPathChar (resolved (rest ++ '/' :: name)) =
      escaped isPathChar (resolved rest) ++ String.ofList ('/' :: name) := by
    rw [resolved_append rooted plain, escaped_append, escaped_of_all h.safe]
  simp only [ofParts, hscheme, Bool.true_or, if_true, hpath, hpaths, hquery, hqueries, hresolved]

/-- Reading an absolute address without query and fragment goes on with a plain path. -/
theorem read?_append_path {base path : String} {a : Address} (h : read? base = some a)
    (absolute : a.isAbsolute = true) (query : a.query = none) (fragment : a.fragment = none)
    (plain : IsPlainPath path.toList) (length : base.length + path.length ≤ lengthLimit) :
    read? (base ++ path) = some { a with path := a.path ++ path } := by
  obtain ⟨scheme, authority, rest, host, port, rfl, hhead, hread⟩ :=
    read?_append h absolute plain.head plain.control length
  have hrest : ∀ c ∈ rest.head?, c = '/' := fun c hc =>
    hhead c hc (all_isBeforeQuery query fragment c (List.mem_of_mem_head? hc))
  rw [hread, ofParts_append absolute query fragment hrest plain, String.ofList_toList]

end Topograph.Address
