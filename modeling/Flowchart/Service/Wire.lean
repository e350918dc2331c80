import Flowchart.Extract
import Flowchart.Service
import Flowchart.Text.Lines

/-!
# The service on the wire

Each request goes over a connection of its own, which the service closes behind its response. The
body of a response is as long as its headers say, or reaches to the end.
-/

namespace Flowchart.Service

/-- Where a URL leads. -/
structure Address where
  host : Text
  port : Nat
  target : Text
  deriving DecidableEq, Repr

namespace Address

def scheme : Text := "http://".toList

def standardPort : Nat := 80

def endsHost (c : Char) : Bool :=
  c == '/' || c == '?' || c == '#'

def isHostChar (c : Char) : Bool :=
  c.isAlphanum || c == '-' || c == '.' || c == '_'

/-- Reads what stands between the scheme and the target. -/
def ofAuthority? (authority target : Text) : Option Address :=
  let host := authority.takeWhile (· != ':')
  if host.isEmpty || !host.all isHostChar then none
  else
    match authority.drop host.length with
    | [] => some ⟨host, standardPort, target⟩
    | _ :: port => (Config.port? port).map fun n => ⟨host, n, target⟩

/-- Characters that a target cannot hold are written byte by byte. -/
def escapeChar (c : Char) : Text :=
  if 0x21 ≤ c.toNat && c.toNat < 0x7f && !"\"<>\x60\x7b\x7d".toList.contains c then [c]
  else
    (String.utf8EncodeChar c).flatMap fun b =>
      ['%', Nat.digitChar (b.toNat / 16), Nat.digitChar (b.toNat % 16)].map Char.toUpper

def ofUrl? (url : Text) : Option Address :=
  if (url.take scheme.length).map Char.toLower = scheme then
    let rest := url.drop scheme.length
    let authority := rest.takeWhile fun c => !endsHost c
    let target := (rest.drop authority.length).takeWhile (· != '#')
    ofAuthority? authority (if target.head? = some '/' then target.flatMap escapeChar
      else '/' :: target.flatMap escapeChar)
  else none

end Address

def lineEnd : Text := ['\r', '\n']

def Request.bytes (r : Request) (a : Address) : Bytes :=
  let body := Text.encodeUtf8 r.body.render
  let headers : List (Text × Text) :=
    [("host".toList, a.host ++ ':' :: Nat.toDigits 10 a.port),
      ("x-goog-api-key".toList, r.apiKey),
      ("content-type".toList, "application/json".toList),
      ("content-length".toList, Nat.toDigits 10 body.length),
      ("connection".toList, "close".toList)]
  Text.encodeUtf8 ("POST ".toList ++ a.target ++ " HTTP/1.1".toList ++ lineEnd ++
    headers.flatMap (fun h => h.1 ++ ": ".toList ++ h.2 ++ lineEnd) ++ lineEnd) ++ body

/-- The bytes before the first empty line, as text, and those behind it. -/
def cutHead? : Bytes → Option (Text × Bytes)
  | 13 :: 10 :: 13 :: 10 :: s => some ([], s)
  | b :: s => (cutHead? s).map fun r => (Char.ofNat b.toNat :: r.1, r.2)
  | [] => none

/-- The bytes before the end of the line, as text, and those behind it. -/
def cutLine? : Bytes → Option (Text × Bytes)
  | 13 :: 10 :: s => some ([], s)
  | b :: s => (cutLine? s).map fun r => (Char.ofNat b.toNat :: r.1, r.2)
  | [] => none

theorem length_lt_of_cutLine? {s rest : Bytes} {line : Text}
    (h : cutLine? s = some (line, rest)) : rest.length < s.length := by
  induction s using cutLine?.induct generalizing line with
  | case1 s =>
    simp only [cutLine?, Option.some.injEq, Prod.mk.injEq] at h
    rw [← h.2]
    simp only [List.length_cons]
    omega
  | case2 b s hne ih =>
    rw [cutLine?.eq_2 b s hne] at h
    obtain ⟨⟨l, r⟩, hr, he⟩ := Option.map_eq_some_iff.1 h
    cases he
    exact Nat.lt_succ_of_lt (ih hr)
  | case3 => cases h

def hexValue? (c : Char) : Option Nat :=
  let n := "0123456789abcdef".toList.idxOf c.toLower
  if n < 16 then some n else none

/-- The size of a chunk, which an extension may follow. -/
def chunkSize? (line : Text) : Option Nat :=
  let digits := Text.trim (line.takeWhile (· != ';'))
  if digits.isEmpty then none
  else digits.foldlM (fun n c => (hexValue? c).map fun d => n * 16 + d) 0

/-- Chunks follow each other until one is empty. -/
def readChunks? (s : Bytes) : Option Bytes :=
  match _h : cutLine? s with
  | none => none
  | some (line, rest) =>
    match chunkSize? line with
    | none => none
    | some 0 => some []
    | some (n + 1) =>
      if rest.length ≤ n then none
      else (readChunks? ((rest.drop (n + 1)).drop 2)).map fun more => rest.take (n + 1) ++ more
termination_by s.length
decreasing_by
  have := length_lt_of_cutLine? _h
  simp
  omega

/-- A number without a sign. -/
def number? (s : Text) : Option Nat :=
  if s.all Char.isDigit then Text.numeral? 0x10000000000000000 s else none

/-- The status on the first line of a response. -/
def status? (line : Text) : Option Nat :=
  match Text.words line with
  | version :: code :: _ =>
    if "HTTP/1.".toList.isPrefixOf version && code.length == 3 then number? code else none
  | _ => none

/-- The value of the first header of a name, which is given in small letters. -/
def header? (name : Text) (lines : List Text) : Option Text :=
  lines.findSome? fun line =>
    match Text.cut? [':'] line with
    | some (key, value) =>
      if (Text.trim key).map Char.toLower = name then some (Text.trim value) else none
    | none => none

def readBody? (headers : List Text) (s : Bytes) : Option Bytes :=
  if ((header? "transfer-encoding".toList headers).map fun v => v.map Char.toLower) =
      some "chunked".toList then
    readChunks? s
  else
    match header? "content-length".toList headers with
    | none => some s
    | some value =>
      (number? value).bind fun n => if s.length < n then none else some (s.take n)

def readResponse? (s : Bytes) : Option Exchange := do
  let (head, rest) ← cutHead? s
  let line :: headers := Text.lines head | none
  return .answered (← status? line) (← readBody? headers rest)

end Flowchart.Service
