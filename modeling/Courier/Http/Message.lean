import Courier.Decimal.Layout
import Courier.Http.Uri
import Courier.Text.Utf8

/-!
# Requests

A delivery begins with a POST that carries the result; where it is sent on, a GET follows that
carries neither the result nor the token.

`post` is the request that `deliver` builds, with the headers that the client adds.
-/

namespace Courier.Http

open Courier.Decimal Courier.Text

/-- What the collector sees of a request. Header names are in lower case, in ascending order. -/
structure Request where
  method : String
  target : List Char
  headers : List (String × List Char)
  body : List Char
  deriving Repr, DecidableEq

/-- The type of a result. -/
def contentType : String := "application/json"

/-- What the client calls itself. -/
def userAgent : String := "result-forwarder/0.1.0"

/-- Whether a text may be the value of a header: no control but the tab. -/
def isHeaderValue (text : List Char) : Bool :=
  text.all fun c => c = '\t' || (' ' ≤ c && c ≠ '\x7F')

/-- A character of ASCII that is no control, or the tab. -/
def isPlainChar (c : Char) : Bool :=
  c = '\t' || (' ' ≤ c && c < '\x7F')

/-- A header value without blanks at its ends. -/
def trimValue (text : List Char) : List Char :=
  let isBlank := fun c : Char => c = ' ' || c = '\t'
  ((text.dropWhile isBlank).reverse.dropWhile isBlank).reverse

/-- The header value that carries a token. -/
def bearerValue (token : List Char) : List Char :=
  "Bearer ".toList ++ token

/-- The characters that stand for six bits. -/
def sixBits : List Char :=
  "ABCDEFGHIJKLMNOPQRSTUVWXYZabcdefghijklmnopqrstuvwxyz0123456789+/".toList

/-- The character for six bits. -/
def sixBit (n : Nat) : Char :=
  sixBits.getD (n % 64) '='

/-- Bytes in characters of six bits each, four for three bytes. -/
def base64 : List UInt8 → List Char
  | [] => []
  | [a] => [sixBit (a.toNat / 4), sixBit (a.toNat * 16), '=', '=']
  | [a, b] =>
    [sixBit (a.toNat / 4), sixBit (a.toNat * 16 + b.toNat / 16), sixBit (b.toNat * 4), '=']
  | a :: b :: c :: rest =>
    sixBit (a.toNat / 4) :: sixBit (a.toNat * 16 + b.toNat / 16) ::
      sixBit (b.toNat * 4 + c.toNat / 64) :: sixBit c.toNat :: base64 rest

/-- The header value that carries user information: a missing password is empty. -/
def basicValue (userInfo : List Char) : List Char :=
  let pair := if userInfo.contains ':' then userInfo else userInfo ++ [':']
  "Basic ".toList ++ base64 (Utf8.encode pair)

/-- The credentials of a request: the token, else the user information of the URI. -/
def credentials (uri : Uri) (token : Option (List Char)) : Option (List Char) :=
  match token with
  | some token => some (bearerValue token)
  | none => uri.userInfo?.map basicValue

/-- The headers of a request in order; those that are missing are left out. -/
def headersOf (uri : Uri) (credentials : Option (List Char)) (length : Option Nat) :
    List (String × List Char) :=
  [("accept", "*/*".toList), ("accept-encoding", "gzip".toList)] ++
    (match credentials with
      | some value => [("authorization", trimValue value)]
      | none => []) ++
    (match length with
      | some n => [("content-length", naturalText n)]
      | none => []) ++
    [("content-type", contentType.toList), ("host", uri.host),
      ("user-agent", userAgent.toList)]

/-- The value of a header, empty if there is none. -/
def Request.header (r : Request) (name : String) : List Char :=
  ((r.headers.find? (·.1 = name)).map (·.2)).getD []

/-- Whether the credentials of a request can be written: a text of ASCII they have to be. -/
def Request.isWritable (r : Request) : Bool :=
  (r.header "authorization").all isPlainChar

/-- The bytes that a request is sent as. -/
def Request.bytes (r : Request) : List UInt8 :=
  Utf8.encode (r.method.toList ++ ' ' :: r.target ++ " HTTP/1.1\r\n".toList ++
    r.headers.flatMap (fun (name, value) => name.toList ++ ": ".toList ++ value ++ "\r\n".toList) ++
    "\r\n".toList ++ r.body)

/-- The request that carries a result. -/
def post (uri : Uri) (token : Option (List Char)) (body : List Char) : Request :=
  ⟨"POST", uri.target, headersOf uri (credentials uri token) (some (Utf8.size body)), body⟩

/-- The request that follows a redirect. -/
def follow (uri : Uri) : Request :=
  ⟨"GET", uri.target, headersOf uri (credentials uri none) none, []⟩

/-! ## Credentials that can be written -/

theorem headers_post (uri : Uri) (token : Option (List Char)) (body : List Char) :
    (post uri token body).headers =
      headersOf uri (credentials uri token) (some (Utf8.size body)) := rfl

theorem headers_follow (uri : Uri) :
    (follow uri).headers = headersOf uri (credentials uri none) none := rfl

theorem header_authorization {r : Request} {uri : Uri} {credentials : Option (List Char)}
    {length : Option Nat} (h : r.headers = headersOf uri credentials length) :
    r.header "authorization" = (credentials.map trimValue).getD [] := by
  unfold Request.header
  rw [h]
  cases credentials <;> cases length <;> rfl

theorem mem_of_mem_trimValue {c : Char} {text : List Char} (h : c ∈ trimValue text) :
    c ∈ text :=
  have hr := (List.dropWhile_sublist _).subset (List.mem_reverse.mp h)
  (List.dropWhile_sublist _).subset (List.mem_reverse.mp hr)

theorem isPlainChar_sixBit (n : Nat) : isPlainChar (sixBit n) = true := by
  have hall : sixBits.all isPlainChar = true := by decide
  unfold sixBit
  rw [List.getD_eq_getElem?_getD]
  cases h : sixBits[n % 64]? with
  | none => decide
  | some c => exact List.all_eq_true.mp hall c (List.mem_of_getElem? h)

theorem all_isPlainChar_base64 (bytes : List UInt8) : (base64 bytes).all isPlainChar = true := by
  induction bytes using base64.induct with
  | case1 => rfl
  | case2 a => simp [base64, isPlainChar_sixBit, show isPlainChar '=' = true from by decide]
  | case3 a b => simp [base64, isPlainChar_sixBit, show isPlainChar '=' = true from by decide]
  | case4 a b c rest ih =>
    rw [List.all_eq_true] at ih
    simpa [base64, isPlainChar_sixBit] using ih

theorem all_isPlainChar_basicValue (userInfo : List Char) :
    (basicValue userInfo).all isPlainChar = true := by
  unfold basicValue
  rw [List.all_append, all_isPlainChar_base64, Bool.and_true]
  decide

/-- **What user information makes can be written**, so that a request without a token can. -/
theorem isWritable_of_no_token {r : Request} {uri : Uri} {length : Option Nat}
    (h : r.headers = headersOf uri (credentials uri none) length) : r.isWritable = true := by
  unfold Request.isWritable
  rw [header_authorization h]
  refine List.all_eq_true.mpr fun c hc => ?_
  cases hu : uri.userInfo? with
  | none =>
    simp only [credentials, hu, Option.map_none, Option.getD_none] at hc
    exact absurd hc List.not_mem_nil
  | some info =>
    simp only [credentials, hu, Option.map_some, Option.getD_some] at hc
    exact List.all_eq_true.mp (all_isPlainChar_basicValue info) c (mem_of_mem_trimValue hc)

theorem isWritable_follow (uri : Uri) : (follow uri).isWritable = true :=
  isWritable_of_no_token (headers_follow uri)

theorem isWritable_post_none (uri : Uri) (body : List Char) :
    (post uri none body).isWritable = true :=
  isWritable_of_no_token (headers_post uri none body)

end Courier.Http
