import Reindex.Url.Reader

/-!
# The paths of URLs that were read

A URL with a scheme that requests can be sent with has a path of segments, so references can be
resolved against it.
-/

namespace Reindex.Url

theorem readAuthority_path {names : Names} {scheme : String} {cs : List Char} {u : Url}
    (h : readAuthority names scheme cs = .ok u) : ∃ list, u.path = .segments list := by
  unfold readAuthority at h
  simp only [bind, Except.bind, pure, Except.pure, throw, throwThe, MonadExceptOf.throw] at h
  -- Whatever is wrong with the authority ends the reading; only the last branch returns a URL.
  repeat' split at h
  all_goals cases h
  exact ⟨_, rfl⟩

theorem readFile_path {names : Names} {cs : List Char} {u : Url} (h : readFile names cs = .ok u) :
    ∃ list, u.path = .segments list := by
  unfold readFile at h
  simp only [bind, Except.bind, pure, Except.pure] at h
  repeat' split at h
  all_goals cases h
  all_goals exact ⟨_, rfl⟩

/-- Only a URL whose scheme has no grammar of its own can have a path that is one text. -/
theorem parse_path {names : Names} {s : String} {u : Url} (h : parse names s = .ok u)
    (hspecial : isSpecial u.scheme = true) : ∃ list, u.path = .segments list := by
  unfold parse at h
  split at h
  · cases h
  split at h
  · exact readFile_path h
  split at h
  · exact readAuthority_path h
  next hplain =>
    split at h
    · exact readAuthority_path h
    · -- Only here the path can be one text, and the scheme is not special.
      cases h
      exact absurd hspecial hplain

theorem isSpecial_of_isHttp {u : Url} (h : u.isHttp = true) : isSpecial u.scheme = true := by
  unfold isHttp at h
  rw [Bool.or_eq_true, beq_iff_eq, beq_iff_eq] at h
  rcases h with h | h
  all_goals rw [h]; decide

@[simp] theorem asDirectory_scheme (u : Url) : u.asDirectory.scheme = u.scheme := by
  unfold asDirectory
  split
  · split <;> rfl
  · rfl

theorem asDirectory_path {u : Url} {list : List String} (h : u.path = .segments list) :
    ∃ before, u.asDirectory.path = .segments (before ++ [""]) := by
  unfold asDirectory
  rw [h]
  dsimp only
  split
  next hlast =>
    obtain ⟨before, rfl⟩ := List.getLast?_eq_some_iff.mp hlast
    exact ⟨before, h⟩
  next => exact ⟨list, rfl⟩

/-- The base that a readable HTTP address leads to is a directory. -/
theorem directory_path {names : Names} {s : String} {u : Url} (h : parse names s = .ok u)
    (hhttp : u.asDirectory.isHttp = true) :
    ∃ before, u.asDirectory.path = .segments (before ++ [""]) := by
  have hspecial := isSpecial_of_isHttp hhttp
  rw [asDirectory_scheme] at hspecial
  obtain ⟨list, hpath⟩ := parse_path h hspecial
  exact asDirectory_path hpath

end Reindex.Url
