import CacheFirst.Path.Basic

/-!
# Errors of the tiers and of the access layer

A tier answers a call with a value or with a `TierError`. The access layer answers a request with a
value or with an `AccessError`, which says at which point the request ended and keeps the tier's
error if there was one. Errors carry text, so that one can be kept and given again later.

## Main definitions

* `TierError`: what the cache or the backing store can answer instead of a value.
* `AccessError`: how a request to the access layer can fail.
* `SystemFailure`, `TierError.ofSystem`: how a failure of the operating system becomes a tier error.
-/

namespace CacheFirst

/-- Answers are values or errors, and are compared as such. -/
instance decidableEqExcept {ε α : Type} [DecidableEq ε] [DecidableEq α] :
    DecidableEq (Except ε α)
  | .error first, .error second =>
    decidable_of_iff (first = second) (Except.error.injEq first second).symm.to_iff
  | .ok first, .ok second =>
    decidable_of_iff (first = second) (Except.ok.injEq first second).symm.to_iff
  | .error _, .ok _ | .ok _, .error _ => isFalse nofun

/-- What a tier answers when it cannot give a value. -/
inductive TierError
  /-- The path does not exist in the tier. -/
  | notFound (path : String)
  /-- The path exists already. -/
  | alreadyExists (path : String)
  /-- Talking to the tier failed. -/
  | transport (detail : String)
  /-- The tier does not do this. -/
  | unsupported (operation : String)
  /-- Anything else. -/
  | other (detail : String)
  deriving DecidableEq, Inhabited

namespace TierError

/-- A tier error in words. -/
def message : TierError → String
  | notFound path => s!"path not found: {path}"
  | alreadyExists path => s!"path already exists: {path}"
  | transport detail => s!"transport error: {detail}"
  | unsupported operation => s!"operation not supported: {operation}"
  | other detail => detail

/-- Whether the tier says that the path is missing. All other errors say that the tier failed. -/
def isNotFound : TierError → Bool
  | notFound _ => true
  | _ => false

/-- A path that a tier cannot read. -/
def unreadablePath (error : PathError) : TierError :=
  other error.message

end TierError

/-- The kinds of operating-system failure that are told apart. -/
inductive SystemFailure
  | missing
  | present
  | another
  deriving DecidableEq, Inhabited

/-- A failure of the operating system as a tier error; its text is kept. -/
def TierError.ofSystem (failure : SystemFailure) (text : String) : TierError :=
  match failure with
  | .missing => .notFound text
  | .present => .alreadyExists text
  | .another => .transport text

/-- How a request to the access layer fails. -/
inductive AccessError
  /-- The cache says that the path is missing. The backing store is not asked. -/
  | notFound (path : String)
  /-- The path has no place in the backing namespace. -/
  | invalidPath (cause : PathError)
  /-- A directory cannot be read as a file. -/
  | isDirectory (path : String)
  /-- The file is still being written. -/
  | incomplete (path : String)
  /-- The cache failed and the request has no fallback. -/
  | cache (cause : TierError)
  /-- The backing store failed. There is nothing further to fall back to. -/
  | store (cause : TierError)
  deriving DecidableEq, Inhabited

namespace AccessError

/-- The wording of the error that caused this one, if there was one. -/
def source? : AccessError → Option String
  | invalidPath cause => some cause.message
  | cache cause | store cause => some cause.message
  | notFound _ | isDirectory _ | incomplete _ => none

/-- An access error in words. -/
def message : AccessError → String
  | notFound path => s!"file does not exist: {path}"
  | invalidPath cause => s!"invalid path: {cause.message}"
  | isDirectory path => s!"cannot open directory: {path}"
  | incomplete path => s!"file is incomplete: {path}"
  | cache cause => s!"cache tier failed: {cause.message}"
  | store cause => s!"backing store failed: {cause.message}"

/-- Whether either tier says that the path is missing. -/
def isNotFound : AccessError → Bool
  | notFound _ => true
  | cache cause | store cause => cause.isNotFound
  | invalidPath _ | isDirectory _ | incomplete _ => false

end AccessError

end CacheFirst
