import WebClient.Proofs.UrlPath
import WebClient.Proofs.Placeholders

/-!
# AppendedQuery — a query put behind a URL

* `Url.appended` is a URL with a query put behind it, and `Url.PlainQuery` are the texts that are
  written in every query as they are.
* `Url.readTidy_query`: wherever a URL ends, a plain query behind it is read as it is written, and
  nothing else is read in another way.  One kind of text is no URL any more, and none that requests
  can be made for.
* `Call.request?_query`: the request for a path with a plain query is the request for the path, with
  the query in its URL.
-/

namespace WebClient

theorem Text.cutAt_append_of_some {sep : Char} {before cs rest : List Char}
    (h : cutAt sep cs = (before, some rest)) (tail : List Char) :
    cutAt sep (cs ++ tail) = (before, some (rest ++ tail)) := by
  induction cs generalizing before with
  | nil => cases h
  | cons c cs ih =>
      by_cases hc : c = sep
      · simp only [cutAt, hc, if_true, Prod.mk.injEq, Option.some.injEq] at h
        simp [cutAt, hc, h.1, h.2]
      · simp only [cutAt, hc, if_false, Prod.mk.injEq] at h
        have hrest := ih (Prod.ext rfl h.2)
        simp [cutAt, hc, hrest, ← h.1]

namespace Url

variable {cs query : List Char} {url : Url} {scheme : String}

/-! ## Plain queries -/

/-- Texts that stand for themselves in every query and in every fragment. -/
def PlainQuery (query : List Char) : Prop :=
  ∀ c ∈ query, keepsInQuery true c = true ∧ keepsInFragment c = true

theorem lt_of_keepsInQuery {c : Char} (h : keepsInQuery true c = true) : 0x20 < c.toNat := by
  simp only [keepsInQuery, isPlainBut, Bool.and_eq_true, decide_eq_true_eq] at h
  exact h.1.1

/-- In a query of a special scheme fewer characters stand for themselves. -/
theorem keepsInQuery_of_special {c : Char} (h : keepsInQuery true c = true) (isSpecial : Bool) :
    keepsInQuery isSpecial c = true := by
  cases isSpecial with
  | true => exact h
  | false =>
      have hnone : ∀ listed ∈ ['"', '#', '<', '>'], ¬ keepsInQuery true listed = true := by
        simp [keepsInQuery, isPlainBut]
      have hlisted : ∀ listed ∈ ['"', '#', '<', '>'], c ≠ listed := by
        rintro listed hmem rfl
        exact hnone c hmem h
      have hplain : 0x20 < c.toNat ∧ c.toNat < 0x7F := by
        simp only [keepsInQuery, isPlainBut, Bool.and_eq_true, decide_eq_true_eq] at h
        exact h.1
      simpa [keepsInQuery, isPlainBut, hplain] using hlisted

theorem PlainQuery.encode_query (h : PlainQuery query) (isSpecial : Bool) :
    encode (keepsInQuery isSpecial) query = query :=
  encode_of_keeps fun c hc => keepsInQuery_of_special (h c hc).1 isSpecial

theorem PlainQuery.encode_fragment (h : PlainQuery query) :
    encode keepsInFragment query = query :=
  encode_of_keeps fun c hc => (h c hc).2

theorem PlainQuery.not_mem (h : PlainQuery query) : '#' ∉ query :=
  fun hmem => absurd (h '#' hmem).1 (by decide)

/-- A question mark stands for itself in a query that has begun. -/
theorem PlainQuery.mark (h : PlainQuery query) : PlainQuery ('?' :: query) :=
  List.forall_mem_cons.2 ⟨by decide, h⟩

theorem encode_append (keep : Char → Bool) (cs cs' : List Char) :
    encode keep (cs ++ cs') = encode keep cs ++ encode keep cs' := List.flatMap_append

/-! ## Reading a URL with a query behind it -/

/-- The URL with a query put behind its text: in a fragment it is a part of the fragment, and in a
query a part of the query. -/
def appended (query : List Char) (url : Url) : Url :=
  match url.fragment, url.query with
  | some fragment, _ => { url with fragment := some (fragment ++ .ofList ('?' :: query)) }
  | none, some earlier => { url with query := some (earlier ++ .ofList ('?' :: query)) }
  | none, none => { url with query := some (.ofList query) }

theorem appended_of_none (hquery : url.query = none) (hfragment : url.fragment = none)
    (query : List Char) : url.appended query = { url with query := some (.ofList query) } := by
  simp [appended, hquery, hfragment]

@[simp]
theorem scheme_appended (query : List Char) (url : Url) :
    (url.appended query).scheme = url.scheme := by
  unfold appended
  split <;> rfl

@[simp]
theorem isHttp_appended (query : List Char) (url : Url) :
    (url.appended query).isHttp = url.isHttp := by
  simp [isHttp]

theorem withTail_query (hquery : PlainQuery query) (url : Url)
    (readPath : List Char → List Char) (cs : List Char) :
    withTail url readPath (cs ++ '?' :: query) = (withTail url readPath cs).appended query := by
  -- Either there is a fragment already, which goes on, or a query, or neither.
  rcases hcut : Text.cutAt '#' cs with ⟨before, _ | fragment⟩
  · have hnone : '#' ∉ cs := Text.not_mem_of_cutAt (congrArg Prod.snd hcut)
    have hnone' : '#' ∉ cs ++ '?' :: query := by
      rw [List.mem_append]
      exact not_or.2 ⟨hnone, hquery.mark.not_mem⟩
    rcases hmark : Text.cutAt '?' cs with ⟨path, _ | earlier⟩
    · have hpath : '?' ∉ cs := Text.not_mem_of_cutAt (congrArg Prod.snd hmark)
      simp [withTail, appended, splitTail, Text.cutAt_of_not_mem hnone,
        Text.cutAt_of_not_mem hnone', Text.cutAt_of_not_mem hpath, Text.cutAt_append hpath,
        Text.cutAt, hquery.encode_query]
    · simp [withTail, appended, splitTail, Text.cutAt_of_not_mem hnone,
        Text.cutAt_of_not_mem hnone', hmark, Text.cutAt_append_of_some hmark, encode_append,
        hquery.mark.encode_query]
  · simp [withTail, appended, splitTail, hcut, Text.cutAt_append_of_some hcut, encode_append,
      hquery.mark.encode_fragment]

/-- What follows an authority matters only where the authority is a lone at sign. -/
theorem authority_followed (scheme : String) (cs : List Char) (isFollowed : Bool) :
    authority scheme cs true = authority scheme cs isFollowed ∨
      authority scheme cs true = .error .emptyHost ∧ isSpecialScheme scheme = false := by
  unfold authority
  generalize (cutAtLastAt cs).getD ([], cs) = cut
  rcases cut with ⟨credentials, host⟩
  dsimp only
  -- Of all authorities this is the only one for which it is asked what follows.
  by_cases hlone : (cs.head? = some '@' && host.isEmpty && credentials.isEmpty) = true
  · have hhost : host = [] := by
      simp only [Bool.and_eq_true, List.isEmpty_iff] at hlone
      exact hlone.1.2
    cases isFollowed with
    | true => exact .inl rfl
    | false =>
        rw [hlone]
        cases hspecial : isSpecialScheme scheme with
        | false => exact .inr ⟨rfl, rfl⟩
        | true => exact .inl (by simp [hhost, hostAndPort, cutHost, hspecial])
  · rw [Bool.eq_false_iff.2 hlone]
    exact .inl rfl

theorem afterSlashes_query (hquery : PlainQuery query) (scheme : String) (cs : List Char) :
    afterSlashes scheme (cs ++ '?' :: query) = (afterSlashes scheme cs).map (appended query) ∨
      afterSlashes scheme (cs ++ '?' :: query) = .error .emptyHost ∧
        isSpecialScheme scheme = false := by
  -- The mark ends an authority that nothing has ended before.
  have hstop : (!endsAuthority (isSpecialScheme scheme) '?') = false := by
    simp [endsAuthority]
  have htake := Text.takeWhile_stop (p := fun c => !endsAuthority (isSpecialScheme scheme) c)
    hstop cs query
  have hdrop := Text.dropWhile_stop (p := fun c => !endsAuthority (isSpecialScheme scheme) c)
    hstop cs query
  unfold afterSlashes
  dsimp only
  rw [htake, hdrop]
  generalize cs.takeWhile (fun c => !endsAuthority (isSpecialScheme scheme) c) = host
  generalize cs.dropWhile (fun c => !endsAuthority (isSpecialScheme scheme) c) = rest
  have hfollowed : (!(rest ++ '?' :: query).isEmpty) = true := by simp
  rw [hfollowed]
  rcases authority_followed scheme host (!rest.isEmpty) with hsame | ⟨herror, hspecial⟩
  · rw [hsame]
    cases authority scheme host (!rest.isEmpty) with
    | error e => exact .inl rfl
    | ok a =>
        have hread := withTail_query hquery
          { scheme, credentials := .ofList a.credentials, host := a.host, port := a.port }
          (hierarchicalPath (isSpecialScheme scheme)) (a.rest ++ rest)
        rw [List.append_assoc] at hread
        exact .inl (congrArg Except.ok hread)
  · rw [herror]
    exact .inr ⟨rfl, hspecial⟩

theorem afterFile_query (hquery : PlainQuery query) (cs : List Char) :
    afterFile (cs ++ '?' :: query) = (afterFile cs).map (appended query) := by
  have hread := fun url readPath cs => congrArg (Except.ok (ε := UrlError))
    (withTail_query hquery url readPath cs)
  match cs with
  | [] =>
    cases query with
    | nil => exact hread _ _ []
    | cons c query => exact hread _ _ []
  | [a] =>
    have hmark : isSlash true '?' = false := rfl
    have hone : afterFile ([a] ++ '?' :: query) = _ := if_neg (by simp [hmark])
    rw [hone]
    exact hread _ _ [a]
  | a :: b :: rest =>
    have hstop : (!endsAuthority true '?') = false := by simp [endsAuthority]
    have htake := Text.takeWhile_stop (p := fun c => !endsAuthority true c) hstop rest query
    have hdrop := Text.dropWhile_stop (p := fun c => !endsAuthority true c) hstop rest query
    rw [List.cons_append, List.cons_append]
    unfold afterFile
    dsimp only
    rw [htake, hdrop]
    -- The mark ends the host, so that each case for the host is the same as without it.
    by_cases hslashes : (isSlash true a && isSlash true b) = true
    · rw [if_pos hslashes, if_pos hslashes]
      generalize rest.takeWhile (fun c => !endsAuthority true c) = host
      by_cases hempty : host.isEmpty = true
      · rw [if_pos hempty, if_pos hempty]
        exact hread _ _ _
      · rw [if_neg hempty, if_neg hempty]
        by_cases hdrive : isDriveLetter host = true
        · rw [if_pos hdrive, if_pos hdrive]
          exact hread _ _ _
        · rw [if_neg hdrive, if_neg hdrive]
          split
          · rfl
          · exact hread _ _ _
          · exact hread _ _ _
    · rw [if_neg hslashes, if_neg hslashes]
      exact hread _ _ (a :: b :: rest)

theorem afterOther_slash {rest : List Char} (h : rest.head? ≠ some '/') :
    afterOther scheme ('/' :: rest) =
      .ok (withTail { scheme } (hierarchicalPath false) ('/' :: rest)) := by
  unfold afterOther
  split <;> simp_all

theorem afterOther_of_ne (h : cs.head? ≠ some '/') :
    afterOther scheme cs =
      .ok (withTail { scheme } (encode fun c => 0x20 ≤ c.toNat && c.toNat < 0x7F) cs) := by
  unfold afterOther
  split <;> simp_all

theorem afterOther_query (hquery : PlainQuery query) (scheme : String) (cs : List Char) :
    afterOther scheme (cs ++ '?' :: query) = (afterOther scheme cs).map (appended query) ∨
      afterOther scheme (cs ++ '?' :: query) = .error .emptyHost ∧
        isSpecialScheme scheme = false := by
  have hhead : ∀ cs : List Char, cs.head? ≠ some '/' → (cs ++ '?' :: query).head? ≠ some '/' := by
    intro cs hcs
    cases cs with
    | nil => simp
    | cons c cs => exact hcs
  by_cases hslash : cs.head? = some '/'
  · rcases List.head?_eq_some_iff.1 hslash with ⟨rest, rfl⟩
    by_cases hslashes : rest.head? = some '/'
    · rcases List.head?_eq_some_iff.1 hslashes with ⟨rest, rfl⟩
      exact afterSlashes_query hquery scheme rest
    · rw [afterOther_slash hslashes, List.cons_append, afterOther_slash (hhead rest hslashes)]
      exact .inl (congrArg Except.ok (withTail_query hquery _ _ ('/' :: rest)))
  · rw [afterOther_of_ne hslash, afterOther_of_ne (hhead cs hslash)]
    exact .inl (congrArg Except.ok (withTail_query hquery _ _ cs))

/-- What is read of a text that has been tidied. -/
def readTidy (cs : List Char) : Except UrlError Url :=
  match scheme? cs with
  | none => .error .relative
  | some (schemeChars, rest) =>
    let scheme := String.ofList schemeChars
    if scheme == "file" then afterFile rest
    else if isSpecialScheme scheme then afterSlashes scheme (rest.dropWhile (isSlash true))
    else afterOther scheme rest

theorem parseChars_eq (cs : List Char) : parseChars cs = readTidy (tidy cs) := rfl

/-- Behind a tidy text a query is read as it is written.  A text that is no URL any more was none
that requests can be made for. -/
theorem readTidy_query (hquery : PlainQuery query) (cs : List Char) :
    readTidy (cs ++ '?' :: query) = (readTidy cs).map (appended query) ∨
      readTidy (cs ++ '?' :: query) = .error .emptyHost ∧
        ∀ url, readTidy cs = .ok url → url.isHttp = false := by
  -- The mark is neither a part of a scheme nor one of the slashes that are skipped behind it.
  have hslash : isSlash true '?' = false := rfl
  have hscheme := scheme?_stop (by decide : isSchemeChar '?' = false) (by decide) cs query
  unfold readTidy
  rw [hscheme]
  cases scheme? cs with
  | none => exact .inl rfl
  | some parts =>
      rcases parts with ⟨schemeChars, rest⟩
      dsimp only [Option.map]
      generalize String.ofList schemeChars = scheme
      by_cases hfile : (scheme == "file") = true
      · rw [if_pos hfile, if_pos hfile]
        exact .inl (afterFile_query hquery rest)
      · rw [if_neg hfile, if_neg hfile]
        cases hspecial : isSpecialScheme scheme with
        | true =>
            rw [if_pos rfl, if_pos rfl, Text.dropWhile_stop hslash]
            refine (afterSlashes_query hquery scheme _).imp_right fun h => ?_
            exact absurd hspecial (by simp [h.2])
        | false =>
            rw [if_neg Bool.false_ne_true, if_neg Bool.false_ne_true]
            refine (afterOther_query hquery scheme rest).imp_right fun h => ⟨h.1, ?_⟩
            intro url hurl
            -- Requests are made for special schemes only.
            refine Bool.eq_false_iff.2 fun hhttp => ?_
            simp only [isHttp, scheme_afterOther hurl, Bool.or_eq_true, beq_iff_eq] at hhttp
            rcases hhttp with rfl | rfl
            · exact absurd hspecial (by decide)
            · exact absurd hspecial (by decide)

/-- A query that stands for itself has no characters that tidying takes. -/
theorem tidy_query (hquery : PlainQuery query) (cs : List Char) :
    tidy (cs ++ '?' :: query) = tidied cs ++ '?' :: query := by
  refine tidy_stop cs fun c hc => ?_
  rcases List.mem_cons.1 hc with rfl | hc
  · decide
  · exact lt_of_keepsInQuery (hquery c hc).1

/-- Whether a text does not end in a blank. -/
def NoBlankEnd (cs : List Char) : Prop := ∀ c ∈ cs.getLast?, 0x20 < c.toNat

instance (cs : List Char) : Decidable (NoBlankEnd cs) :=
  decidable_of_iff (cs.getLast?.all (fun c => decide (0x20 < c.toNat)) = true)
    (by simp [NoBlankEnd, Option.all_eq_true])

theorem noBlankEnd_concat {last : Char} : NoBlankEnd (cs ++ [last]) ↔ 0x20 < last.toNat := by
  simp [NoBlankEnd]

theorem NoBlankEnd.tidy (h : NoBlankEnd cs) : tidy cs = tidied cs := by
  rcases List.eq_nil_or_concat cs with rfl | ⟨before, last, rfl⟩
  · rfl
  · rw [List.concat_eq_append] at h ⊢
    exact tidy_of_last (noBlankEnd_concat.1 h)

/-- Behind a text that does not end in a blank, a query is read as it is written. -/
theorem parseChars_query (hquery : PlainQuery query) (hend : NoBlankEnd cs) :
    parseChars (cs ++ '?' :: query) = (parseChars cs).map (appended query) ∨
      parseChars (cs ++ '?' :: query) = .error .emptyHost ∧
        ∀ url, parseChars cs = .ok url → url.isHttp = false := by
  rw [parseChars_eq, parseChars_eq, tidy_query hquery, hend.tidy]
  exact readTidy_query hquery (tidied cs)

/-! ## Texts without marks -/

/-- Neither a question mark nor a number sign is among the characters. -/
def Markless (cs : List Char) : Prop := '?' ∉ cs ∧ '#' ∉ cs

/-- Whether a URL ends with its path. -/
def EndsWithPath (url : Url) : Prop := url.query = none ∧ url.fragment = none

instance (cs : List Char) : Decidable (Markless cs) :=
  inferInstanceAs (Decidable ('?' ∉ cs ∧ '#' ∉ cs))

instance (url : Url) : Decidable url.EndsWithPath :=
  inferInstanceAs (Decidable (url.query = none ∧ url.fragment = none))

theorem Markless.subset {cs' : List Char} (h : Markless cs) (hsub : cs' ⊆ cs) : Markless cs' :=
  ⟨fun hmem => h.1 (hsub hmem), fun hmem => h.2 (hsub hmem)⟩

theorem endsWithPath_withTail (h : Markless cs) (url : Url) (readPath : List Char → List Char) :
    (withTail url readPath cs).EndsWithPath := by
  simp [withTail, splitTail_of_not_mem h.2 h.1, EndsWithPath]

theorem cutHost_subset (inBrackets : Bool) (cs : List Char) : (cutHost inBrackets cs).2 ⊆ cs := by
  induction cs generalizing inBrackets with
  | nil => exact List.Subset.refl _
  | cons c cs ih =>
      unfold cutHost
      split
      · exact List.Subset.refl _
      · exact List.subset_cons_of_subset c (ih _)

/-- What an authority leaves over is a part of it: what follows the digits of the port. -/
theorem rest_subset_of_authority {a : Authority} {isFollowed : Bool}
    (h : authority scheme cs isFollowed = .ok a) : a.rest ⊆ cs := by
  have hcut : ((cutAtLastAt cs).getD ([], cs)).2 ⊆ cs := by
    unfold cutAtLastAt
    split
    · intro c hc
      exact List.mem_reverse.1 ((List.takeWhile_sublist _).subset (List.mem_reverse.1 hc))
    · exact List.Subset.refl _
  unfold authority at h
  generalize (cutAtLastAt cs).getD ([], cs) = cut at h hcut
  dsimp only at h
  split at h
  · cases h
  · unfold hostAndPort at h
    dsimp only at h
    split at h
    · split at h
      · cases h
      · cases h
        exact List.nil_subset cs
    · split at h
      · cases h
      · unfold port? at h
        dsimp only at h
        split at h
        · cases h
        · cases h
          intro c hc
          have hport : c ∈ (cutHost false cut.2).2 :=
            List.mem_of_mem_drop ((List.dropWhile_sublist _).subset hc)
          exact hcut (cutHost_subset false cut.2 hport)

theorem endsWithPath_afterSlashes (h : Markless cs) (hread : afterSlashes scheme cs = .ok url) :
    url.EndsWithPath := by
  have htake := (List.takeWhile_sublist (l := cs)
    fun c => !endsAuthority (isSpecialScheme scheme) c).subset
  have hdrop := (List.dropWhile_sublist (l := cs)
    fun c => !endsAuthority (isSpecialScheme scheme) c).subset
  unfold afterSlashes at hread
  dsimp only at hread
  generalize cs.takeWhile (fun c => !endsAuthority (isSpecialScheme scheme) c) = host at hread htake
  generalize cs.dropWhile (fun c => !endsAuthority (isSpecialScheme scheme) c) = rest at hread hdrop
  cases hauthority : authority scheme host (!rest.isEmpty) with
  | error e =>
      rw [hauthority] at hread
      cases hread
  | ok a =>
      rw [hauthority] at hread
      cases hread
      have hrest := List.Subset.trans (rest_subset_of_authority hauthority) htake
      exact endsWithPath_withTail (h.subset (List.append_subset.2 ⟨hrest, hdrop⟩)) _ _

theorem endsWithPath_afterFile (h : Markless cs) (hread : afterFile cs = .ok url) :
    url.EndsWithPath := by
  unfold afterFile at hread
  split at hread
  · rename_i a b rest
    have hrest : Markless rest := h.subset fun c hc =>
      List.mem_cons_of_mem a (List.mem_cons_of_mem b hc)
    have hafter : Markless (rest.dropWhile fun c => !endsAuthority true c) :=
      hrest.subset (List.dropWhile_sublist _).subset
    split at hread
    · dsimp only at hread
      split at hread
      · cases hread
        exact endsWithPath_withTail hafter _ _
      · split at hread
        · cases hread
          exact endsWithPath_withTail hrest _ _
        · split at hread
          · cases hread
          · cases hread
            exact endsWithPath_withTail hafter _ _
          · cases hread
            exact endsWithPath_withTail hafter _ _
    · cases hread
      exact endsWithPath_withTail h _ _
  · cases hread
    exact endsWithPath_withTail h _ _

theorem endsWithPath_afterOther (h : Markless cs) (hread : afterOther scheme cs = .ok url) :
    url.EndsWithPath := by
  unfold afterOther at hread
  split at hread
  · rename_i rest
    have hrest : Markless rest := h.subset fun c hc =>
      List.mem_cons_of_mem _ (List.mem_cons_of_mem _ hc)
    exact endsWithPath_afterSlashes hrest hread
  · cases hread
    exact endsWithPath_withTail h _ _
  · cases hread
    exact endsWithPath_withTail h _ _

/-- What follows a scheme is the end of the text. -/
theorem suffix_of_scheme? {schemeChars rest : List Char}
    (h : scheme? cs = some (schemeChars, rest)) : rest <:+ cs := by
  unfold scheme? at h
  split at h
  · rename_i hdrop
    split at h
    · cases h
      have hcolon : ':' :: rest <:+ cs := hdrop ▸ List.dropWhile_suffix isSchemeChar
      exact (List.suffix_cons ':' rest).trans hcolon
    · cases h
  · cases h

/-- A text without marks has neither a query nor a fragment. -/
theorem endsWithPath_readTidy (h : Markless cs) (hread : readTidy cs = .ok url) :
    url.EndsWithPath := by
  unfold readTidy at hread
  split at hread
  · cases hread
  · rename_i hscheme
    have hrest := h.subset (suffix_of_scheme? hscheme).subset
    dsimp only at hread
    split at hread
    · exact endsWithPath_afterFile hrest hread
    · split at hread
      · exact endsWithPath_afterSlashes (hrest.subset (List.dropWhile_sublist _).subset) hread
      · exact endsWithPath_afterOther hrest hread

theorem markless_tidied (h : Markless cs) : Markless (tidied cs) :=
  h.subset fun _ hc => (List.dropWhile_sublist _).subset (List.mem_filter.1 hc).1

theorem endsWithPath_parseChars (h : Markless cs) (hread : parseChars cs = .ok url) :
    url.EndsWithPath := by
  refine endsWithPath_readTidy (h.subset fun c hc => ?_) hread
  have htrimmed := (List.mem_filter.1 hc).1
  rw [List.mem_reverse] at htrimmed
  have hfront := List.mem_reverse.1 ((List.dropWhile_sublist _).subset htrimmed)
  exact (List.dropWhile_sublist _).subset hfront

/-- Whatever a text without marks ends in, a query behind it is the query of its URL. -/
theorem query_of_parseChars (h : Markless cs) (hquery : PlainQuery query)
    (hread : parseChars (cs ++ '?' :: query) = .ok url) :
    url.query = some (.ofList query) ∧ url.fragment = none := by
  rw [parseChars_eq, tidy_query hquery] at hread
  rcases readTidy_query hquery (tidied cs) with hsame | ⟨herror, -⟩
  · rw [hsame] at hread
    cases hbare : readTidy (tidied cs) with
    | error e =>
        rw [hbare] at hread
        cases hread
    | ok bare =>
        rw [hbare] at hread
        cases hread
        have hends := endsWithPath_readTidy (markless_tidied h) hbare
        rw [appended_of_none hends.1 hends.2]
        exact ⟨rfl, hends.2⟩
  · rw [herror] at hread
    cases hread

end Url

/-- A path and the query behind it are found again. -/
theorem Location.split_query {path query : List Char} (hpath : Url.Markless path)
    (hquery : '#' ∉ query) : split (path ++ '?' :: query) = (path, query) := by
  rw [split_append hpath.2 hpath.1]
  simp [split, Text.cutAt_of_not_mem hquery, Text.cutAt]

/-! ## Requests -/

theorem Text.mem_of_mem_joined {sep c : Char} {parts : List (List Char)}
    (h : c ∈ joined sep parts) : c = sep ∨ ∃ part ∈ parts, c ∈ part := by
  induction parts with
  | nil => cases h
  | cons part parts ih =>
      by_cases hnil : parts = []
      · subst hnil
        exact .inr ⟨part, List.mem_cons_self, h⟩
      · rw [joined_cons part hnil] at h
        rcases List.mem_append.1 h with hpart | hrest
        · exact .inr ⟨part, List.mem_cons_self, hpart⟩
        · rcases List.mem_cons.1 hrest with hsep | hrest
          · exact .inl hsep
          · rcases ih hrest with hsep | ⟨other, hother, hmem⟩
            · exact .inl hsep
            · exact .inr ⟨other, List.mem_cons_of_mem _ hother, hmem⟩

theorem Text.plainQuery_formEncodeChars (cs : List Char) :
    Url.PlainQuery (formEncodeChars cs) := fun _ => of_mem_formEncodeChars
  (p := fun c => Url.keepsInQuery true c = true ∧ Url.keepsInFragment c = true) (by decide +kernel)

theorem Text.plainQuery_formQuery (pairs : List (String × String)) :
    Url.PlainQuery (formQuery pairs) := by
  intro c hc
  rcases mem_of_mem_joined hc with rfl | ⟨piece, hpiece, hmem⟩
  · decide
  · rcases List.mem_map.1 hpiece with ⟨pair, -, rfl⟩
    rcases List.mem_append.1 hmem with hkey | hvalue
    · exact plainQuery_formEncodeChars _ c hkey
    · rcases List.mem_cons.1 hvalue with rfl | hvalue
      · decide
      · exact plainQuery_formEncodeChars _ c hvalue

/-- A path is put behind a base in the same way with a query. -/
theorem endpoint_query (base path query : String) :
    endpoint base (path ++ "?" ++ query) = endpoint base path ++ "?" ++ query := by
  have hmark : "?".toList = ['?'] := rfl
  unfold endpoint
  cases hpath : path.toList with
  | nil => simp [hpath, hmark, String.append_assoc]
  | cons c cs => by_cases hc : c = '/' <;> simp [hpath, hc, String.append_assoc]

/-- What is put behind a base ends like the path, or in a slash. -/
theorem noBlankEnd_endpoint (base : String) {path : String} (h : Url.NoBlankEnd path.toList) :
    Url.NoBlankEnd (endpoint base path).toList := by
  have hslash : "/".toList = ['/'] := rfl
  rcases List.eq_nil_or_concat path.toList with hnil | ⟨before, last, hlast⟩
  · have htext : (endpoint base path).toList = base.toList ++ ['/'] := by
      simp [endpoint, hnil, hslash]
    rw [htext, Url.noBlankEnd_concat]
    decide
  · rw [List.concat_eq_append] at hlast
    rw [hlast, Url.noBlankEnd_concat] at h
    unfold endpoint
    split
    · rw [String.toList_append, hlast, ← List.append_assoc, Url.noBlankEnd_concat]
      exact h
    · rw [String.toList_append, hlast, ← List.append_assoc, Url.noBlankEnd_concat]
      exact h

/-- The request for a path with a plain query is the request for the path, with the query in its
URL. -/
theorem Call.request?_query (call : Call) (base : String) (token : Option String) (path : String)
    (hend : Url.NoBlankEnd path.toList) {query : List Char}
    (hquery : Url.PlainQuery query) :
    ({ call with path := path ++ "?" ++ String.ofList query } : Call).request? base token =
      (({ call with path } : Call).request? base token).map fun request =>
        { request with url := request.url.appended query } := by
  have htext : (endpoint base path ++ "?" ++ String.ofList query).toList =
      (endpoint base path).toList ++ '?' :: query := by simp
  have hread := Url.parseChars_query hquery (noBlankEnd_endpoint base hend)
  unfold request?
  rw [endpoint_query, Url.parse, Url.parse, htext]
  -- If there is no URL any more, there was none that requests are made for.
  rcases hread with hsame | ⟨herror, hnot⟩
  · rw [hsame]
    cases Url.parseChars (endpoint base path).toList with
    | error e => rfl
    | ok url => cases hhttp : url.isHttp <;> simp [Except.map, hhttp]
  · rw [herror]
    cases hbare : Url.parseChars (endpoint base path).toList with
    | error e => rfl
    | ok url => simp [hnot url hbare]

end WebClient
