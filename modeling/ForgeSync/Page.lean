import ForgeSync.Error.Basic
import ForgeSync.Json.Decode

/-!
# Paged listings

Services return long listings page by page.  A cursor says where the next page starts and how
many items to ask for; a page carries its items and where the page after it starts, or that
it is the last.  Bitbucket Server sends each page as an envelope object; GitHub numbers its
pages and names the next one in a response header.

`allPages` walks the chain: it asks for the page at the cursor, takes its items, and moves the
cursor to the start the page names for the next one (never to start plus size).  It stops at
the last page, when it has as many items as asked for, when the page budget is used up, when
a page that is not the last names no next start, at the first error of a fetch, and when the
caller's context is done.  A limit on items also caps the page size asked for.
-/

namespace ForgeSync

/-- Where a walk stands: the start and size of the page to ask for, and what the last page
reported. -/
structure Cursor where
  start : Nat := 0
  limit : Option Nat := none
  size : Nat := 0
  isLastPage : Bool := false
  nextPageStart : Option Nat := none
  deriving Repr, DecidableEq, Inhabited

/-- One page of a listing. -/
structure Page (α : Type) where
  values : List α
  start : Nat := 0
  limit : Option Nat := none
  size : Nat := 0
  isLastPage : Bool := true
  nextPageStart : Option Nat := none
  deriving Repr

namespace Page

/-- A page that names the start of the next one, or none when it is the last; its size is its
number of items. -/
def chained {α : Type} (values : List α) (start : Nat) (next : Option Nat) : Page α :=
  { values, start, limit := none, size := values.length, isLastPage := next.isNone,
    nextPageStart := next }

/-- What a page reports about the listing, as a cursor. -/
def cursor {α : Type} (p : Page α) : Cursor :=
  { start := p.start, limit := p.limit, size := p.size, isLastPage := p.isLastPage,
    nextPageStart := p.nextPageStart }

/-- Apply a function to every item of a page. -/
def map {α β : Type} (f : α → β) (p : Page α) : Page β :=
  { values := p.values.map f, start := p.start, limit := p.limit, size := p.size,
    isLastPage := p.isLastPage, nextPageStart := p.nextPageStart }

/-- Read a page envelope: the items, the start, the limit, the size, whether it is the last
page and the next start, each optional; a missing last-page flag means it is the last. -/
def ofEnvelope {α : Type} (read : Json → Json.Decoded α) (j : Json) : Json.Decoded (Page α) := do
  let [values, start, limit, size, isLast, next] ←
    Json.slots "Page" ["values", "start", "limit", "size", "isLastPage", "nextPageStart"] j
    | .error "record shape"
  pure {
    values := ← values.orDefault [] (Json.readList read)
    start := ← start.orDefault 0 Json.readU64
    limit := ← limit.optionalOrAbsent Json.readU64
    size := ← size.orDefault 0 Json.readU64
    isLastPage := ← isLast.orDefault true Json.readBool
    nextPageStart := ← next.optionalOrAbsent Json.readU64 }

end Page

/-- How much of a listing to fetch: the page size to ask for, and budgets for pages and
items. -/
structure PageOptions where
  limit : Option Nat := none
  maxPages : Option Nat := none
  maxItems : Option Nat := none
  deriving Repr, DecidableEq, Inhabited

/-- The cursor after a page: the page's size, flag and next start, and its limit when it
reports one. -/
def Cursor.advance {α : Type} (c : Cursor) (p : Page α) : Cursor :=
  { c with size := p.size, isLastPage := p.isLastPage, nextPageStart := p.nextPageStart,
           limit := if p.limit.isSome then p.limit else c.limit }

/-- The error for a page that is not the last and names no next start. -/
def missingNextStart : ApiError :=
  .invalidServerData [⟨"nextPageStart", "missing on a page that is not the last"⟩]

section Walk

variable {σ α : Type}

/-- Walk the chain from a cursor, with `pages` pages fetched and `items` gathered so far; at
most `fuel` more pages are fetched, and running out of fuel ends the walk like a used-up page
budget. -/
def walkPages (check : σ → Except ApiError Unit)
    (fetch : Cursor → StateM σ (Except ApiError (Page α))) (opts : PageOptions) :
    Nat → Nat → List α → Cursor → StateM σ (Except ApiError (List α) × Cursor)
  | 0, pages, _, cur => pure (.error (.tooManyPages pages), cur)
  | fuel + 1, pages, items, cur => do
    match check (← get) with
    | .error e => pure (.error e, cur)
    | .ok () =>
      if opts.maxPages.any (· ≤ pages) then pure (.error (.tooManyPages pages), cur)
      else
        match ← fetch cur with
        | .error e => pure (.error e, cur)
        | .ok page =>
          let items := items ++ page.values
          let cur := cur.advance page
          match opts.maxItems with
          | some m =>
            if m ≤ items.length then pure (.ok (items.take m), cur)
            else if cur.isLastPage then pure (.ok items, cur)
            else
              match cur.nextPageStart with
              | none => pure (.error missingNextStart, cur)
              | some n => walkPages check fetch opts fuel (pages + 1) items { cur with start := n }
          | none =>
            if cur.isLastPage then pure (.ok items, cur)
            else
              match cur.nextPageStart with
              | none => pure (.error missingNextStart, cur)
              | some n => walkPages check fetch opts fuel (pages + 1) items { cur with start := n }

/-- The cursor a walk starts from: the options' page size when the cursor has none. -/
def PageOptions.withLimit (opts : PageOptions) (cursor : Cursor) : Cursor :=
  if cursor.limit.isNone then { cursor with limit := opts.limit } else cursor

/-- A cursor whose page size is capped by an item budget. -/
def Cursor.capLimit (c : Cursor) (m : Nat) : Cursor :=
  { c with limit := some (match c.limit with
      | some l => min l m
      | none => m) }

/-- All items of a listing from a cursor, with the cursor where the walk ended.  An item
budget of zero fetches nothing; any other caps the page size asked for. -/
def allPages (check : σ → Except ApiError Unit)
    (fetch : Cursor → StateM σ (Except ApiError (Page α))) (opts : PageOptions) (fuel : Nat)
    (cursor : Cursor) : StateM σ (Except ApiError (List α) × Cursor) :=
  let c := opts.withLimit cursor
  match opts.maxItems with
  | some 0 => pure (.ok [], c)
  | some m => walkPages check fetch opts fuel 0 [] (c.capLimit m)
  | none => walkPages check fetch opts fuel 0 [] c

end Walk

end ForgeSync
