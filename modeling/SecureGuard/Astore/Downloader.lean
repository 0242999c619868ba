import SecureGuard.Lib.Machine

/-! # The downloader of the app store

A package is downloaded into a temporary file named after its URL. What is in that file when an
attempt begins is taken for the beginning of the package, and only the rest is asked for. When all
is read the file gets its final name and is handed to the installer. -/

namespace SecureGuard.Astore

abbrev Bytes := List UInt8

/-! ## File names -/

/-- What is read in a URL by `Uri`. -/
structure Uri where
  contentDisposition : Option String
  lastPathSegment : Option String
  path : Option String

/-- `Uri.parse` with what is read then, and `URLDecoder.decode`; `none` where they throw. -/
structure UrlReader where
  parse : String → Option Uri
  decode : String → Option String

/-- What follows the first occurrence of the pattern. -/
def afterFirst (pattern : List Char) : List Char → Option (List Char)
  | [] => if pattern = [] then some [] else none
  | c :: s => if pattern.isPrefixOf (c :: s) then some ((c :: s).drop pattern.length)
    else afterFirst pattern s

/-- The letters of the extensions, whatever their case. -/
def foldCase (c : Char) : Char :=
  if c = '\u017F' then 's' else if c = '\u212A' then 'k' else c.toLower

def isLineTerminator (c : Char) : Bool :=
  c = '\n' || c = '\r' || c = '\u0085' || c = '\u2028' || c = '\u2029'

def hasFileExtension (segment : String) : Bool :=
  [".apk", ".xapk", ".apks", ".apkm", ".zip"].any
      (fun extension => extension.toList.isSuffixOf (segment.toList.map foldCase)) &&
    !segment.toList.any isLineTerminator

/-- An exception leaves the name empty. -/
def getFileNameFromUrl (r : UrlReader) (urlString : String) : String :=
  (r.parse urlString).elim "" fun uri =>
    (uri.contentDisposition.bind fun c => afterFirst "filename=".toList c.toList).elim
      (uri.lastPathSegment.elim "" fun lastPathSegment =>
        if hasFileExtension lastPathSegment then lastPathSegment
        else if (afterFirst "/XAPK/".toList
          ((uri.path.getD "").toList.map Char.toUpper)).isSome then lastPathSegment ++ ".xapk"
        else lastPathSegment ++ ".apk")
      fun fileName => (r.decode (String.ofList (fileName.filter (· ≠ '"')))).getD ""

/-! ## One attempt -/

/-- The files of the application. -/
abbrev Files := String → Option Bytes

def Files.set (files : Files) (name : String) (content : Option Bytes) : Files :=
  fun n => if n = name then content else files n

def tempFile (finalFilename : String) : String := finalFilename ++ ".tmp"

/-- How the reading of a body ends; the numbers are of the bytes that are written by then. -/
inductive Ending
  /-- An exception. -/
  | interrupted (bytes : Nat)
  /-- The download is found to be cancelled. -/
  | cancelled (bytes : Nat)
  /-- All is read, and the installer takes the file or throws. -/
  | uninterrupted (installs : Bool)
deriving DecidableEq, Repr

/-- What an attempt meets: whether there is a response, the content the URL serves, whether the
server answers a request for a range by a range, and how the reading ends. -/
structure Attempt where
  responds : Bool
  content : Bytes
  ranges : Bool
  ending : Ending
deriving DecidableEq, Repr

/-- The response code and the body, for a request of all or from some byte on. -/
def Attempt.respond (a : Attempt) : Option Nat → Nat × Bytes
  | none => (200, a.content)
  | some n =>
    if !a.ranges then (200, a.content)
    else if n < a.content.length then (206, a.content.drop n)
    else (416, [])

/-- How the loop goes on. -/
inductive Verdict
  | completed
  | stopped
  | refused (responseCode : Nat)
  | failed
deriving DecidableEq, Repr

structure Result where
  files : Files
  installed : Option Bytes
  verdict : Verdict

/-- What is asked for begins where the temporary file ends, if there is one. -/
def response (files : Files) (finalFilename : String) (a : Attempt) : Nat × Bytes :=
  a.respond ((files (tempFile finalFilename)).map List.length)

/-- What is left in the temporary file when the body is written to it: `setLength(0)`, or `seek`. -/
def kept (files : Files) (finalFilename : String) (responseCode : Nat) : Bytes :=
  if responseCode = 200 then [] else (files (tempFile finalFilename)).getD []

/-- The file once some bytes of the body are written. -/
def written (files : Files) (finalFilename : String) (a : Attempt) (bytes : Nat) : Bytes :=
  kept files finalFilename (response files finalFilename a).1 ++
    (response files finalFilename a).2.take bytes

/-- The body of the loop of `downloadApk`. The installation deletes the final file. -/
def attempt (files : Files) (finalFilename : String) (a : Attempt) : Result :=
  let responseCode := (response files finalFilename a).1
  if !a.responds then ⟨files, none, .failed⟩
  else if responseCode = 200 ∨ responseCode = 206 then
    match a.ending with
    | .interrupted bytes =>
      ⟨files.set (tempFile finalFilename) (written files finalFilename a bytes), none, .failed⟩
    | .cancelled bytes =>
      ⟨files.set (tempFile finalFilename) (written files finalFilename a bytes), none, .stopped⟩
    | .uninterrupted installs =>
      ⟨(files.set (tempFile finalFilename) none).set finalFilename none,
        kept files finalFilename responseCode ++ (response files finalFilename a).2,
        if installs then .completed else .failed⟩
  else ⟨files, none, .refused responseCode⟩

/-! ## A download -/

/-- What the flow emits, but for the percentages. -/
inductive AstoreDownloadProgress
  | downloading
  | installing
  | completed
  | error
deriving DecidableEq, Repr

/-- A call of `downloadApk`: whether it is cancelled before it starts, and what its attempts meet;
there are no more attempts once it is cancelled. -/
structure Call where
  packageName : String
  urlString : String
  cancelledBefore : Bool
  attempts : List Attempt

def finalFilename (r : UrlReader) (c : Call) : String :=
  if getFileNameFromUrl r c.urlString = "" then c.packageName ++ "_update.apk"
  else getFileNameFromUrl r c.urlString

def Verdict.isRefused : Verdict → Bool
  | .refused _ => true
  | _ => false

/-- What an attempt emits. -/
def Result.emitted (res : Result) : List AstoreDownloadProgress :=
  (if res.installed.isSome then [.downloading, .installing] else []) ++
    (if res.verdict = .completed then [.completed] else []) ++
    if res.verdict.isRefused then [.error] else []

/-- What is emitted after the loop. -/
def lastError (lastException : Bool) : List AstoreDownloadProgress :=
  if lastException then [.error] else []

/-- The loop over the attempts that are left, and what follows it. An exception is remembered until
a body is read. -/
def retry (name : String) :
    Nat → Bool → Files → List Attempt → Files × List AstoreDownloadProgress
  | 0, lastException, files, _ => (files, lastError lastException)
  | _ + 1, lastException, files, [] => (files, lastError lastException)
  | left + 1, lastException, files, a :: attempts =>
    let res := attempt files name a
    if res.verdict = .failed then
      let rest := retry name left true res.files attempts
      (rest.1, res.emitted ++ rest.2)
    else (res.files, res.emitted ++ lastError (lastException && res.verdict.isRefused))

def maxRetries : Nat := 3

/-- A flow is closed, or its producer waits until it is: `awaitClose`. -/
structure Flow where
  files : Files
  emitted : List AstoreDownloadProgress
  closed : Bool

def downloadApk (r : UrlReader) (files : Files) (c : Call) : Flow :=
  if c.cancelledBefore then ⟨files, [], true⟩
  else
    let loop := retry (finalFilename r c) maxRetries false files c.attempts
    ⟨loop.1, loop.2, false⟩

end SecureGuard.Astore
