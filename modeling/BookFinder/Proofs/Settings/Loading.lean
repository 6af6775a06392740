import BookFinder.Proofs.Settings.Document
import BookFinder.Settings.Load

/-! # Which file the settings are from

The first candidate that exists decides. It is the source, or the reason why nothing is loaded, and
the candidates behind it are not looked at. -/

namespace BookFinder.Settings

variable {files : FileSystem} {environment : Environment} {userDirectory : Option String}

/-! ## What an entry holds -/

/-- A named file that is missing is passed over; a directory at the next candidate is an error. -/
example : load
    (fun path => if path = "settings.yml" then some .unreadable
      else if path = "config/settings.yml" then some (.text "") else none)
    (fun name => if name = "BOOKSEARCH_SETTINGS_PATH" then some "mine.yml" else none) none =
      .error .unreadable := by
  rfl

end BookFinder.Settings
