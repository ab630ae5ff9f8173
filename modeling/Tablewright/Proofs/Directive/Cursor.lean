import Tablewright.Proofs.Directive.Partition
import Tablewright.Proofs.Directive.Slices

namespace Tablewright.Directive

/-!
# Reading by byte positions

Directives can also be found by byte positions: the tag patterns of the whole
text are located first, a cursor moves over them, and everything that is kept
or read is a slice of the text.  A reading that takes a slice out of range or
within a character has no result.  There is none of these: reading by byte
positions is reading.
-/

open Text (byteLength slice? sliceFrom?)

/-! ## Groups -/

/-- The byte position of the bracket that closes a group. -/
def closerAt (closers : List Char) (quoting : Quoting) (index : Nat) :
    List Char → Reading Nat
  | [] => .error .unbalanced
  | character :: rest =>
      let continueWith (closers : List Char) : Reading Nat :=
        closerAt closers (quoting.next character)
          (index + character.utf8Size) rest
      if quoting ≠ .outside ∨ isQuote character then continueWith closers
      else
        match closerOf? character with
        | some closer => continueWith (closer :: closers)
        | none =>
            if isCloser character then
              match closers with
              | [] => .error (.unexpectedCloser character)
              | expected :: outer =>
                  if character ≠ expected then
                    .error (.unexpectedCloser character)
                  else if outer.isEmpty then .ok index
                  else continueWith outer
            else continueWith closers

/-- The slice of a text between its first bracket and the one that closes
it. -/
def enclosed? (text : List Char) : Option (Reading (List Char)) :=
  match closerAt [] .outside 0 text with
  | .error cause => some (.error cause)
  | .ok index => (slice? (String.ofList text) 1 index).map .ok

/-- A body in brackets at a byte position, and the byte position behind its
two brackets. -/
def groupAt? (shape : BodyShape) (rest : List Char) (start : Nat) :
    Option (Reading (Option Body × Nat)) :=
  (enclosed? rest).map fun inner =>
    inner.map fun inner =>
      (some ⟨shape, inner⟩, start + byteLength inner + 2)

/-- The closing bracket stands behind the inner text of the group. -/
theorem closerAt_eq
    (closers : List Char)
    (quoting : Quoting)
    (index : Nat)
    (text : List Char) :
    closerAt closers quoting index text =
      (readGroup closers quoting text).map
        fun (inner, _) => index + byteLength inner := by
  induction text generalizing closers quoting index with
  | nil => rfl
  | cons character rest inductionHypothesis =>
      have continued (outer : List Char) :
          closerAt outer (quoting.next character)
              (index + character.utf8Size) rest =
            ((readGroup outer (quoting.next character) rest).map
                fun (inner, rest) => (character :: inner, rest)).map
              fun (inner, _) => index + byteLength inner := by
        rw [inductionHypothesis]
        cases readGroup outer (quoting.next character) rest with
        | error cause => rfl
        | ok pair =>
            exact congrArg Except.ok (Nat.add_assoc _ _ _)
      simp only [closerAt, readGroup, continued]
      split
      · rfl
      · cases closerOf? character with
        | some closer => rfl
        | none =>
            dsimp only
            split
            · cases closers with
              | nil => rfl
              | cons expected outer =>
                  dsimp only
                  split
                  · rfl
                  · split <;> rfl
            · rfl

/-- The slice between the brackets is the inner text of the group. -/
theorem enclosed?_eq
    {opener closer : Char}
    (opens : closerOf? opener = some closer)
    (unquoted : isQuote opener = false)
    (width : opener.utf8Size = 1)
    (rest : List Char) :
    enclosed? (opener :: rest) =
      some ((readGroup [closer] .outside rest).map Prod.fst) := by
  have first : closerAt [] .outside 0 (opener :: rest) =
      closerAt [closer] .outside 1 rest := by
    simp [closerAt, opens, unquoted, width, Quoting.next]
  rw [enclosed?, first, closerAt_eq]
  cases found : readGroup [closer] .outside rest with
  | error cause => rfl
  | ok pair =>
      obtain ⟨inner, behind⟩ := pair
      obtain rfl := eq_of_readGroup found rfl
      have sliced := Text.slice?_append [opener] inner (closer :: behind)
      have start : byteLength [opener] = 1 := width
      rw [start] at sliced
      exact congrArg (Option.map Except.ok) sliced

/-- A body in brackets is the group that is read there, and takes its inner
text and two brackets. -/
theorem groupAt?_eq
    {opener closer : Char}
    (opens : closerOf? opener = some closer)
    (unquoted : isQuote opener = false)
    (widths : opener.utf8Size = 1 ∧ closer.utf8Size = 1)
    (shape : BodyShape)
    (rest : List Char)
    (start : Nat) :
    groupAt? shape (opener :: rest) start =
      some ((readGroup [closer] .outside rest).map fun (inner, _) =>
        (some ⟨shape, inner⟩,
          start + byteLength (opener :: inner ++ [closer]))) := by
  rw [groupAt?, enclosed?_eq opens unquoted widths.1]
  cases readGroup [closer] .outside rest with
  | error cause => rfl
  | ok pair =>
      have width : byteLength (opener :: pair.1 ++ [closer]) =
          byteLength pair.1 + 2 := by
        rw [Text.byteLength_append]
        simp only [byteLength, widths]
        omega
      simp only [Option.map_some, Except.map, width, Nat.add_assoc]

/-! ## Values -/

/-- The byte position of the first blank. -/
def blankAt? (index : Nat) : List Char → Option Nat
  | [] => none
  | character :: rest =>
      if Text.isBlank character then some index
      else blankAt? (index + character.utf8Size) rest

/-- The number of bytes that an alias takes behind a value, with everything
in front of it. -/
def aliasWidth? (tail : List Char) : Option Nat :=
  let trimmed := tail.dropWhile isSpaceOrTab
  match trimmed with
  | 'a' :: 's' :: ' ' :: afterAs => do
      let gap :=
        byteLength afterAs - byteLength (afterAs.dropWhile isSpaceOrTab)
      let name ← sliceFrom? (String.ofList afterAs) gap
      let width := (blankAt? 0 name).getD (byteLength name)
      return if 0 < width then
        byteLength tail - byteLength trimmed + 3 + gap + width
      else 0
  | _ => return 0

/-- The first blank stands behind everything that is no blank; without a
blank, that is the whole text. -/
theorem getD_blankAt?
    (index : Nat)
    (text : List Char) :
    (blankAt? index text).getD (index + byteLength text) =
      index + byteLength (text.takeWhile fun c => !Text.isBlank c) := by
  induction text generalizing index with
  | nil => rfl
  | cons character rest inductionHypothesis =>
      rw [blankAt?, List.takeWhile_cons]
      cases Text.isBlank character with
      | true => rfl
      | false =>
          have later := inductionHypothesis (index + character.utf8Size)
          rw [Nat.add_assoc, Nat.add_assoc] at later
          exact later

/-- What is left of a text behind its front part has the rest of its
bytes. -/
theorem byteLength_sub_dropWhile
    (keep : Char → Bool)
    (text : List Char) :
    byteLength text - byteLength (text.dropWhile keep) =
      byteLength (text.takeWhile keep) := by
  have parts := congrArg byteLength
    (List.takeWhile_append_dropWhile (p := keep) (l := text))
  rw [Text.byteLength_append] at parts
  omega

/-- The bytes of an alias are those of the text that is read for it. -/
theorem aliasWidth?_eq
    (tail : List Char) :
    aliasWidth? tail =
      some (((readAlias? tail).map fun (found, _) =>
        byteLength found).getD 0) := by
  by_cases shaped :
      ∃ afterAs,
        tail.dropWhile isSpaceOrTab = 'a' :: 's' :: ' ' :: afterAs
  · obtain ⟨afterAs, found⟩ := shaped
    have front := byteLength_sub_dropWhile isSpaceOrTab tail
    rw [found] at front
    have sliced := Text.sliceFrom?_append (afterAs.takeWhile isSpaceOrTab)
      (afterAs.dropWhile isSpaceOrTab)
    rw [List.takeWhile_append_dropWhile] at sliced
    have width := getD_blankAt? 0 (afterAs.dropWhile isSpaceOrTab)
    rw [Nat.zero_add, Nat.zero_add] at width
    simp only [aliasWidth?, readAlias?, found, front,
      byteLength_sub_dropWhile, sliced, bind, Option.bind, pure, width]
    split
    · rename_i given
      have named := mt Text.byteLength_eq_zero_iff.mpr
        (Nat.ne_of_gt given)
      have mark : byteLength ['a', 's', ' '] = 3 := rfl
      rw [if_neg (by simpa using named)]
      simp only [Option.map_some, Option.getD_some,
        Text.byteLength_append, mark]
    · rename_i none
      have unnamed := Text.byteLength_eq_zero_iff.mp
        (Nat.eq_zero_of_not_pos none)
      rw [if_pos (by simp [unnamed])]
      rfl
  · have unread : readAlias? tail = none := by
      unfold readAlias?
      dsimp only
      split
      · rename_i found
        exact (shaped ⟨_, found⟩).elim
      · rfl
    have noWidth : aliasWidth? tail = some 0 := by
      unfold aliasWidth?
      dsimp only
      split
      · rename_i found
        exact (shaped ⟨_, found⟩).elim
      · rfl
    rw [unread, noWidth]
    rfl

/-! ## Bodies -/

/-- The body behind a tag that stops at a byte position, and the byte
position behind the body. -/
def bodyAt? (text : String) (start : Nat) :
    Option (Reading (Option Body × Nat)) := do
  let rest ← sliceFrom? text start
  match rest with
  | '(' :: _ => groupAt? .arguments rest start
  | '{' :: _ => groupAt? .block rest start
  | ':' :: _ => do
      let valueStart := start + 1
      let value ← sliceFrom? text valueStart
      let width :=
        (blankAt? 0 value).getD (text.utf8ByteSize - valueStart)
      if width = 0 then return .error .noValueAfterColon
      else
        let tail ← sliceFrom? text (valueStart + width)
        let further ← aliasWidth? tail
        let stop := valueStart + width + further
        let inner ← slice? text valueStart stop
        return .ok (some ⟨.value, inner⟩, stop)
  | _ => return .ok (none, start)

/-- A value at a byte position is the one that is read there. -/
theorem bodyAt?_colon
    (before rest : List Char) :
    bodyAt? (String.ofList (before ++ [':'] ++ rest)) (byteLength before) =
      some ((readValue rest).map fun (value, _) =>
        (some ⟨.value, value⟩,
          byteLength before + 1 + byteLength value)) := by
  let value := rest.takeWhile fun c => !Text.isBlank c
  let left := rest.dropWhile fun c => !Text.isBlank c
  have parts : rest = value ++ left := by simp [value, left]
  have start : byteLength (before ++ [':']) = byteLength before + 1 := by
    rw [Text.byteLength_append]
    rfl
  have whole := Text.sliceFrom?_append before ([':'] ++ rest)
  have behindColon := Text.sliceFrom?_append (before ++ [':']) rest
  have behindValue :=
    Text.sliceFrom?_append (before ++ [':'] ++ value) left
  rw [← List.append_assoc] at whole
  rw [start] at behindColon
  rw [Text.byteLength_append _ value, start, List.append_assoc,
    ← parts] at behindValue
  have size :
      (String.ofList (before ++ [':'] ++ rest)).utf8ByteSize -
          (byteLength before + 1) =
        byteLength rest := by
    rw [← Text.byteLength_eq_utf8ByteSize, Text.byteLength_append, start]
    omega
  have width : (blankAt? 0 rest).getD (byteLength rest) =
      byteLength value := by
    simpa using getD_blankAt? 0 rest
  have inner
      {inner behind : List Char}
      (shape : rest = inner ++ behind) :
      slice? (String.ofList (before ++ [':'] ++ rest))
          (byteLength before + 1)
          (byteLength before + 1 + byteLength inner) =
        some inner := by
    have sliced := Text.slice?_append (before ++ [':']) inner behind
    rwa [start, List.append_assoc _ inner, ← shape] at sliced
  rw [bodyAt?, whole]
  simp only [bind, Option.bind, behindColon, size, width, behindValue,
    aliasWidth?_eq, List.singleton_append]
  rw [readValue]
  by_cases empty : value = []
  · have noWidth := Text.byteLength_eq_zero_iff.mpr empty
    rw [if_pos noWidth, if_pos (List.isEmpty_iff.mpr empty)]
    rfl
  · have someWidth := mt Text.byteLength_eq_zero_iff.mp empty
    rw [if_neg someWidth, if_neg (mt List.isEmpty_iff.mp empty)]
    cases found : readAlias? left with
    | none =>
        simp only [Option.map_none, Option.getD_none, Nat.add_zero,
          inner parts]
        rfl
    | some pair =>
        obtain ⟨tail, behind⟩ := pair
        have shape : rest = value ++ tail ++ behind := by
          rw [List.append_assoc, ← (eq_of_readAlias? found).1, parts]
        simp only [Option.map_some, Option.getD_some,
          Nat.add_assoc _ _ (byteLength tail), ← Text.byteLength_append,
          inner shape]
        rfl

/-- The body at a byte position is the one that is read there, and the
position behind it is that of what is left. -/
theorem bodyAt?_eq
    (before text : List Char) :
    bodyAt? (String.ofList (before ++ text)) (byteLength before) =
      some ((readBody text).map fun (body, _) =>
        (body, byteLength before + byteLength (writtenBody body))) := by
  have whole := Text.sliceFrom?_append before text
  unfold readBody
  split
  · rename_i rest
    rw [bodyAt?, whole]
    simp only [bind, Option.bind]
    rw [groupAt?_eq rfl rfl ⟨rfl, rfl⟩]
    cases readGroup [')'] .outside rest <;> rfl
  · rename_i rest
    rw [bodyAt?, whole]
    simp only [bind, Option.bind]
    rw [groupAt?_eq rfl rfl ⟨rfl, rfl⟩]
    cases readGroup ['}'] .outside rest <;> rfl
  · rename_i rest
    rw [← List.singleton_append, ← List.append_assoc, bodyAt?_colon]
    cases readValue rest with
    | error cause => rfl
    | ok pair =>
        refine congrArg (fun behind => some (Except.ok (_, behind))) ?_
        exact Nat.add_assoc _ _ _
  · rw [bodyAt?, whole]
    simp only [bind, Option.bind]
    rfl

/-! ## The cursor -/

/-- The byte positions at which the names of the tags in a text start and
stop, each behind an at sign at a place where a directive may start. -/
def tagSpans (afterBlank : Bool) (index : Nat) :
    List Char → List (Nat × Nat)
  | [] => []
  | character :: rest =>
      let later :=
        tagSpans (Text.isBlank character) (index + character.utf8Size) rest
      if afterBlank && character == '@' then
        match readTag? rest with
        | some (tag, _) =>
            (index + 1, index + 1 + byteLength tag) :: later
        | none => later
      else later

/--
Read the directives of a text behind a cursor; the set and everything that is
kept.

A tag in front of the cursor lies in a directive that has been read, and is
passed.
-/
def readAt? (text : String) (set : Set) (kept : List Char) (cursor : Nat) :
    List (Nat × Nat) → Option (Outcome (Set × List Char))
  | [] => do
      let last ← sliceFrom? text cursor
      return .ok (set, kept ++ last)
  | (start, stop) :: spans =>
      let mark := start - 1
      if mark < cursor then readAt? text set kept cursor spans
      else do
        let part ← slice? text cursor mark
        let tag ← slice? text start stop
        let name := String.ofList tag
        match ← bodyAt? text stop with
        | .error cause => return .error (cause.failure name)
        | .ok (body, behind) =>
            match Reading.forTag name (set.add name body) with
            | .error failure => return .error failure
            | .ok set => readAt? text set (kept ++ part) behind spans

/-- Read every directive of a documentation string by byte positions. -/
def parseAt? (text : String) : Option (Outcome Set) := do
  let outcome ← readAt? text {} [] 0 (tagSpans true 0 text.toList)
  return outcome.map fun (set, kept) =>
    { set with comment := commentOf kept }

/-- Tags that begin in a part of a text begin in front of its end. -/
theorem tagSpans_append
    (afterBlank : Bool)
    (index : Nat)
    (part rest : List Char) :
    ∃ inner,
      tagSpans afterBlank index (part ++ rest) =
          inner ++
            tagSpans (opensBehind afterBlank part)
              (index + byteLength part) rest ∧
        ∀ span ∈ inner, span.1 - 1 < index + byteLength part := by
  induction part generalizing afterBlank index with
  | nil => exact ⟨[], rfl, by simp⟩
  | cons character part inductionHypothesis =>
      obtain ⟨inner, found, inFront⟩ :=
        inductionHypothesis (Text.isBlank character)
          (index + character.utf8Size)
      rw [Nat.add_assoc, ← byteLength] at found inFront
      rw [List.cons_append, tagSpans, found]
      split
      · cases readTag? (part ++ rest) with
        | none => exact ⟨inner, rfl, inFront⟩
        | some pair =>
            refine ⟨(index + 1, index + 1 + byteLength pair.1) :: inner,
              rfl, ?_⟩
            intro span member
            rcases List.mem_cons.mp member with rfl | later
            · have positive := character.utf8Size_pos
              simp only [byteLength]
              omega
            · exact inFront span later
      · exact ⟨inner, rfl, inFront⟩

/-- Tags in front of the cursor are passed. -/
theorem readAt?_append
    {text : String}
    {cursor : Nat}
    {inner : List (Nat × Nat)}
    (inFront : ∀ span ∈ inner, span.1 - 1 < cursor)
    (set : Set)
    (kept : List Char)
    (spans : List (Nat × Nat)) :
    readAt? text set kept cursor (inner ++ spans) =
      readAt? text set kept cursor spans := by
  induction inner with
  | nil => rfl
  | cons span inner inductionHypothesis =>
      obtain ⟨start, stop⟩ := span
      rw [List.cons_append, readAt?]
      dsimp only
      rw [if_pos (inFront _ List.mem_cons_self)]
      exact inductionHypothesis fun other member =>
        inFront other (List.mem_cons_of_mem _ member)

/-- With the cursor behind a directive, the tags within it are passed. -/
theorem readAt?_within
    {rest tag afterTag afterBody : List Char}
    {body : Option Body}
    (tagged : readTag? rest = some (tag, afterTag))
    (bodied : readBody afterTag = .ok (body, afterBody))
    (text : String)
    (set : Set)
    (kept : List Char)
    (index : Nat) :
    readAt? text set kept (index + byteLength (tag ++ writtenBody body))
        (tagSpans false index rest) =
      readAt? text set kept (index + byteLength (tag ++ writtenBody body))
        (tagSpans false (index + byteLength (tag ++ writtenBody body))
          afterBody) := by
  obtain ⟨rfl, ends⟩ := ends_directive tagged bodied
  obtain ⟨inner, spans, inFront⟩ := tagSpans_append false index
    (tag ++ writtenBody body) afterBody
  have closed : opensBehind false (tag ++ writtenBody body) = false :=
    ends.opensBehind_eq_false (List.cons_ne_nil _ _) true
  rw [spans, closed, readAt?_append inFront]

/-- The directive at the first tag behind the cursor is applied, and the
cursor is put behind it. -/
theorem readAt?_directive
    {afterBlank : Bool}
    {character : Char}
    {rest tag afterTag : List Char}
    (starts : (afterBlank && character == '@') = true)
    (tagged : readTag? rest = some (tag, afterTag))
    (set : Set)
    (before part kept : List Char) :
    readAt? (String.ofList (before ++ part ++ character :: rest)) set kept
        (byteLength before)
        (tagSpans afterBlank (byteLength (before ++ part))
          (character :: rest)) =
      match readBody afterTag with
      | .error cause => some (.error (cause.failure (String.ofList tag)))
      | .ok (body, _) =>
          match Reading.forTag (String.ofList tag)
              (set.add (String.ofList tag) body) with
          | .error failure => some (.error failure)
          | .ok set =>
              readAt? (String.ofList (before ++ part ++ character :: rest))
                set (kept ++ part)
                (byteLength (before ++ part) + 1 +
                  byteLength (tag ++ writtenBody body))
                (tagSpans false (byteLength (before ++ part) + 1) rest) := by
  obtain ⟨_, isMark⟩ := Bool.and_eq_true_iff.mp starts
  obtain rfl := beq_iff_eq.mp isMark
  have spans : tagSpans afterBlank (byteLength (before ++ part))
        ('@' :: rest) =
      (byteLength (before ++ part) + 1,
        byteLength (before ++ part) + 1 + byteLength tag) ::
          tagSpans false (byteLength (before ++ part) + 1) rest := by
    rw [tagSpans, if_pos starts, tagged]
    rfl
  obtain ⟨rfl, _⟩ := eq_of_readTag? tagged
  have start : byteLength (before ++ part ++ ['@']) =
      byteLength (before ++ part) + 1 := by
    rw [Text.byteLength_append _ ['@']]
    rfl
  have stop : byteLength (before ++ part ++ ['@'] ++ tag) =
      byteLength (before ++ part) + 1 + byteLength tag := by
    rw [Text.byteLength_append _ tag, start]
  have shape : before ++ part ++ ['@'] ++ tag ++ afterTag =
      before ++ part ++ '@' :: (tag ++ afterTag) := by
    simp
  have slicedPart := Text.slice?_append before part
    ('@' :: (tag ++ afterTag))
  have slicedTag := Text.slice?_append (before ++ part ++ ['@']) tag afterTag
  have bodied := bodyAt?_eq (before ++ part ++ ['@'] ++ tag) afterTag
  rw [← Text.byteLength_append] at slicedPart
  rw [shape, start] at slicedTag
  rw [shape, stop] at bodied
  have behind : ¬ byteLength (before ++ part) < byteLength before := by
    rw [Text.byteLength_append]
    omega
  rw [spans, readAt?]
  dsimp only
  rw [Nat.add_sub_cancel, if_neg behind, slicedPart, slicedTag, bodied]
  cases readBody afterTag with
  | error cause => rfl
  | ok pair =>
      simp only [bind, Option.bind, Except.map, Text.byteLength_append tag,
        Nat.add_assoc]
      cases Reading.forTag (String.ofList tag)
          (set.add (String.ofList tag) pair.1) with
      | error failure => rfl
      | ok set => rfl

/-- A character at which no directive starts joins the part that is kept. -/
theorem readAt?_keep
    {set : Set}
    {afterBlank : Bool}
    {character : Char}
    {before part rest kept : List Char}
    (ordinary :
      tagSpans afterBlank (byteLength (before ++ part)) (character :: rest) =
        tagSpans (Text.isBlank character)
          (byteLength (before ++ part) + character.utf8Size) rest)
    (later :
      readAt? (String.ofList (before ++ (part ++ [character]) ++ rest)) set
          kept (byteLength before)
          (tagSpans (Text.isBlank character)
            (byteLength (before ++ (part ++ [character]))) rest) =
        some ((readFrom set (Text.isBlank character) rest).map
          fun (result, others) =>
            (result, kept ++ (part ++ [character]) ++ others))) :
    readAt? (String.ofList (before ++ part ++ character :: rest)) set kept
        (byteLength before)
        (tagSpans afterBlank (byteLength (before ++ part))
          (character :: rest)) =
      some (((readFrom set (Text.isBlank character) rest).map
          fun (set, kept) => (set, character :: kept)).map
        fun (result, others) => (result, kept ++ part ++ others)) := by
  have shape : before ++ (part ++ [character]) ++ rest =
      before ++ part ++ character :: rest := by
    simp
  have width : byteLength (before ++ (part ++ [character])) =
      byteLength (before ++ part) + character.utf8Size := by
    rw [← List.append_assoc, Text.byteLength_append _ [character]]
    rfl
  rw [shape, width] at later
  rw [ordinary, later]
  cases readFrom set (Text.isBlank character) rest with
  | error failure => rfl
  | ok pair => simp [Except.map]

/-- With the cursor behind a part of a text that has been read, and a further
part that is kept, the rest is read as it is read for itself. -/
theorem readAt?_tagSpans
    (set : Set)
    (afterBlank : Bool)
    (before part rest kept : List Char) :
    readAt? (String.ofList (before ++ part ++ rest)) set kept
        (byteLength before)
        (tagSpans afterBlank (byteLength (before ++ part)) rest) =
      some ((readFrom set afterBlank rest).map fun (result, others) =>
        (result, kept ++ part ++ others)) := by
  fun_induction readFrom set afterBlank rest
    generalizing before part kept with
  | case1 set afterBlank =>
      rw [tagSpans, readAt?, List.append_nil, Text.sliceFrom?_append]
      exact congrArg (fun all => some (Except.ok (set, all)))
        (List.append_nil _).symm
  | case2 set afterBlank character rest keep starts untagged later =>
      refine readAt?_keep ?_ (later before (part ++ [character]) kept)
      rw [tagSpans, if_pos starts, untagged]
  | case3 set afterBlank character rest starts tag afterTag tagged name cause
      rejected =>
      rw [readAt?_directive starts tagged, rejected]
      rfl
  | case4 set afterBlank character rest starts tag afterTag tagged name body
      afterBody bodied failure failed =>
      rw [readAt?_directive starts tagged, bodied]
      simp only [name] at failed
      simp only [failed]
      rfl
  | case5 set afterBlank character rest starts tag afterTag tagged name body
      afterBody bodied next added _ later =>
      obtain ⟨_, isMark⟩ := Bool.and_eq_true_iff.mp starts
      obtain rfl := beq_iff_eq.mp isMark
      have shape := (ends_directive tagged bodied).1
      have whole : before ++ part ++ ['@'] ++
            (tag ++ writtenBody body) ++ [] ++ afterBody =
          before ++ part ++ '@' :: rest := by
        simp [shape]
      have stop : byteLength (before ++ part ++ ['@'] ++
            (tag ++ writtenBody body)) =
          byteLength (before ++ part) + 1 +
            byteLength (tag ++ writtenBody body) := by
        rw [Text.byteLength_append, Text.byteLength_append _ ['@']]
        rfl
      -- the directive has been read, so it joins what is in front
      have further := later
        (before ++ part ++ ['@'] ++ (tag ++ writtenBody body)) []
        (kept ++ part)
      rw [whole, List.append_nil, List.append_nil, stop] at further
      simp only [name] at added
      rw [readAt?_directive starts tagged, bodied]
      simp only [added]
      rw [readAt?_within tagged bodied]
      exact further
  | case6 set afterBlank character rest keep ordinary later =>
      refine readAt?_keep ?_ (later before (part ++ [character]) kept)
      rw [tagSpans, if_neg ordinary]

/-! ## Every text -/

namespace Set

/-- Reading a text by byte positions is reading it. -/
theorem parseAt?_eq
    (text : String) :
    parseAt? text = some (parse text) := by
  have whole : readAt? text {} [] 0 (tagSpans true 0 text.toList) = _ :=
    String.ofList_toList ▸ readAt?_tagSpans {} true [] [] text.toList []
  rw [parseAt?, whole, parse]
  cases readFrom {} true text.toList with
  | error failure => rfl
  | ok pair => rfl

/--
Reading directives partitions the text.

The text is made up of directives and of kept parts around them, and the set
is obtained by applying these directives in order.  The comment is made up of
the lines of what is kept, trimmed, without the empty ones and joined by single
spaces; there is none if no line is left.  The same set is obtained by byte
positions, where every slice of the text is in range and between characters,
and so is every slice of a body.
-/
theorem parse_partitions
    {text : String}
    {set : Set}
    (parsed : parse text = .ok set) :
    (∃ pieces last applied,
        Partition text.toList pieces last ∧
          pieces.foldlM Piece.applyTo {} = .ok applied ∧
          set =
            { applied with
              comment :=
                if commentLines (keptText pieces last) = [] then none
                else
                  some (" ".intercalate
                    (commentLines (keptText pieces last))) }) ∧
      parseAt? text = some (.ok set) ∧
      ∀ part,
        topLevelSlices? part = some (splitTopLevel part) ∧
          pairSlices? part = some (splitPair? part) ∧
          unquotedSlice? part = some (unquote part) := by
  refine ⟨?_, by rw [parseAt?_eq, parsed], fun part =>
    ⟨topLevelSlices?_eq part, pairSlices?_eq part,
      unquotedSlice?_eq part⟩⟩
  obtain ⟨⟨applied, kept⟩, read, rfl⟩ := Outcome.map_eq_ok_iff.mp parsed
  obtain ⟨pieces, last, divides, rfl, isApplied⟩ :=
    (Reads.of_readFrom read).exists_divides
  refine ⟨pieces, last, applied, divides.partition, isApplied, ?_⟩
  rw [← commentOf_eq]

/-- A documentation string with names and an alias beyond ASCII, with the tag
pattern in a body, and with a blank line and an indented one at the end. -/
def umlautDocumentation : String :=
  "Größe @hidden('ü @x(', \"ß\")\u2003in Metern\n@trait:App\\Ü as \tÄ.\n \n  gemessen"

/-- The directives of a text beyond ASCII partition it, and its comment is
made up of the lines around them. -/
theorem parse_partitions_umlaut :
    ∃ set,
      parse umlautDocumentation = .ok set ∧
      set.comment = some "Größe \u2003in Metern gemessen" ∧
      ((∃ pieces last applied,
        Partition umlautDocumentation.toList pieces last ∧
          pieces.foldlM Piece.applyTo {} = .ok applied ∧
          set =
            { applied with
              comment :=
                if commentLines (keptText pieces last) = [] then none
                else
                  some (" ".intercalate
                    (commentLines (keptText pieces last))) }) ∧
      parseAt? umlautDocumentation = some (.ok set) ∧
      ∀ part,
        topLevelSlices? part = some (splitTopLevel part) ∧
          pairSlices? part = some (splitPair? part) ∧
          unquotedSlice? part = some (unquote part)) := by
  have parsed :
      parse umlautDocumentation =
        .ok
          { hidden := some ["ü @x(", "ß"]
            traits := [{ path := "App\\Ü", alternative := some "Ä." }]
            comment := some "Größe \u2003in Metern gemessen" } := by
    decide +kernel
  exact ⟨_, parsed, rfl, parse_partitions parsed⟩

end Set

end Tablewright.Directive
