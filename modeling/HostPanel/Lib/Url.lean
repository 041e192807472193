import Mathlib.Data.List.Basic

namespace HostPanel.Lib.Url

variable {H : Type}

/-- The schemes of web pages. -/
inductive Scheme where
  | http
  | https
deriving DecidableEq

namespace Scheme

def name : Scheme → String
  | http => "http"
  | https => "https"

def defaultPort : Scheme → ℕ
  | http => 80
  | https => 443

def ofName? (name : String) : Option Scheme := [http, https].find? (fun s => s.name == name)

end Scheme

/-- What a browser compares to tell sites apart; a default port is left out. -/
structure Origin (H : Type) where
  scheme : Scheme
  host : H
  port : Option ℕ
deriving DecidableEq

def isC0OrSpace (c : Char) : Bool := decide (c.toNat ≤ 32)

def isTabOrNewline (c : Char) : Bool := c == '\t' || c == '\n' || c == '\r'

/-- The input without control characters and spaces at its end, and without tabs
and newlines. -/
def cleanEnd (input : List Char) : List Char :=
  (input.reverse.dropWhile isC0OrSpace).reverse.filter (fun c => !isTabOrNewline c)

/-- What the parser reads of its input. -/
def clean (input : List Char) : List Char := cleanEnd (input.dropWhile isC0OrSpace)

/-- In a URL of these schemes a backslash counts as a slash. -/
def isSlash (c : Char) : Bool := c == '/' || c == '\\'

/-- Authority state: what precedes the path, the query and the fragment, without
the credentials. -/
def hostAndPort (input : List Char) : List Char :=
  ((input.takeWhile (fun c => !(isSlash c || c == '?' || c == '#'))).reverse.takeWhile (fun c => c != '@')).reverse

/-- Host state: the host ends at a colon that is not in brackets. -/
def splitPort : Bool → List Char → List Char × List Char
  | _, [] => ([], [])
  | insideBrackets, c :: cs =>
    if c == ':' && !insideBrackets then ([], cs)
    else
      let rest := splitPort (c == '[' || insideBrackets && c != ']') cs
      (c :: rest.1, rest.2)

/-- Port state. -/
def parsePort (scheme : Scheme) (digits : List Char) : Option (Option ℕ) :=
  let port := digits.foldl (fun n c => 10 * n + (c.toNat - '0'.toNat)) 0
  if digits.all Char.isDigit = false ∨ 65535 < port then none
  else if digits = [] ∨ port = scheme.defaultPort then some none
  else some (some port)

/-- The origin that an authority names. -/
def authority (parseHost : List Char → Option H) (scheme : Scheme) (input : List Char) : Option (Origin H) :=
  let parts := splitPort false (hostAndPort input)
  if parts.1 = [] then none
  else do
    let host ← parseHost parts.1
    let port ← parsePort scheme parts.2
    return ⟨scheme, host, port⟩

/-- The reference starts with two slashes and so names a host. -/
def namesHost : List Char → Bool
  | c :: d :: _ => isSlash c && isSlash d
  | _ => false

/-- Relative state and relative slash state. -/
def relative (parseHost : List Char → Option H) (base : Origin H) (input : List Char) : Option (Origin H) :=
  if namesHost input then authority parseHost base.scheme (input.dropWhile isSlash) else some base

/-- Scheme start state and scheme state. -/
def splitScheme : List Char → Option (String × List Char)
  | [] => none
  | c :: cs =>
    let isSchemeChar (c : Char) : Bool := c.isAlphanum || c == '+' || c == '-' || c == '.'
    if c.isAlpha then
      match cs.dropWhile isSchemeChar with
      | ':' :: rest => some (String.ofList ((c :: cs.takeWhile isSchemeChar).map Char.toLower), rest)
      | _ => none
    else none

/-- The origin of what a reference resolves to; nothing where it does not
resolve, or leaves the schemes of the web. -/
def resolve (parseHost : List Char → Option H) (base : Origin H) (input : List Char) : Option (Origin H) :=
  match splitScheme (clean input) with
  | none => relative parseHost base (clean input)
  | some (name, rest) =>
    match Scheme.ofName? name with
    | none => none
    | some scheme =>
      if scheme = base.scheme ∧ ¬ ['/', '/'] <+: rest then relative parseHost base rest
      else authority parseHost scheme (rest.dropWhile isSlash)

theorem dropWhile_concat {p : Char → Bool} {c : Char} (hc : p c = false) (l : List Char) :
    (l ++ [c]).dropWhile p = l.dropWhile p ++ [c] := by
  induction l with
  | nil => simp [hc]
  | cons d l ih => by_cases hd : p d = true <;> simp [hd, ih]

theorem cleanEnd_cons {c : Char} (hspace : isC0OrSpace c = false) (htab : isTabOrNewline c = false) (l : List Char) :
    cleanEnd (c :: l) = c :: cleanEnd l := by
  rw [cleanEnd, List.reverse_cons, dropWhile_concat hspace, List.reverse_concat,
    List.filter_cons_of_pos (by simp [htab])]
  rfl

theorem clean_slash (l : List Char) : clean ('/' :: l) = '/' :: cleanEnd l := cleanEnd_cons rfl rfl l

theorem resolve_slash (parseHost : List Char → Option H) (base : Origin H) (l : List Char) :
    resolve parseHost base ('/' :: l) = relative parseHost base (clean ('/' :: l)) := by
  rw [resolve, clean_slash]
  rfl

theorem relative_eq_base {parseHost : List Char → Option H} {base : Origin H} {input : List Char}
    (h : namesHost input = false) : relative parseHost base input = some base := by
  rw [relative, h]
  rfl

theorem relative_eq_base_iff {parseHost : List Char → Option H} {base : Origin H} {input : List Char} :
    relative parseHost base input = some base ↔
      (namesHost input = true → authority parseHost base.scheme (input.dropWhile isSlash) = some base) := by
  unfold relative
  by_cases h : namesHost input = true
  · rw [if_pos h]
    exact ⟨fun he _ => he, fun he => he h⟩
  · rw [if_neg h]
    exact iff_of_true rfl (fun he => absurd he h)

end HostPanel.Lib.Url
