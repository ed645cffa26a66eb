import EntityViews.Fetch.Registry
import EntityViews.Learning.Visibility

/-!
The fields that views of the language-learning domain may ask for.
-/

namespace EntityViews.Learning

def columns (names : List String) : List (String × Source) := names.map fun n => (n, .column)

def formulas (names : List String) : List (String × Source) := names.map fun n => (n, .formula)

def one (name target : String) : String × Source := (name, .relation ⟨name, target, .toOne, none⟩)

def many (name target : String) : String × Source := (name, .relation ⟨name, target, .toMany, none⟩)

/-- A relation of which a viewer sees only what a filter lets through. -/
def narrowed (name target : String) (filter : Context → Except Fault Value) : String × Source :=
  (name, .relation ⟨name, target, .toMany, some filter⟩)

def sources : List (String × List (String × Source)) :=
  [("Language", columns ["id", "code", "name", "greeting", "secondSpeakersCount", "flag", "flagCircular",
        "flagEmoji", "color", "isRtl", "isAbjad", "levelThresholds"] ++
      formulas ["learnersCount"]),
    ("User", columns ["id", "username", "email", "isEmailConfirmed", "isBanned"] ++
      formulas ["isPendingEmailChange"] ++
      [one "profile" "Profile"]),
    ("Profile", columns ["id", "profilePicture", "bio", "isPublic"] ++
      [one "user" "User", many "languagesLearning" "Language"]),
    ("Collection", columns ["id", "title", "description", "image", "addedOn", "isPublic"] ++
      formulas ["avgPastViewersCountPerText"] ++
      [one "language" "Language", one "addedBy" "Profile",
        narrowed "texts" "Text" visibleInContext,
        ("vocabsByLevel", .annotated (.vocabsByLevel .collections)),
        ("isBookmarked", .annotated (.isBookmarked .collections))]),
    ("Text", columns ["id", "title", "content", "parsedTitle", "parsedContent", "audio", "image",
        "orderInCollection", "isProcessing", "addedOn", "isPublic", "level"] ++
      formulas ["isLastInCollection", "pastViewersCount"] ++
      [one "language" "Language", one "addedBy" "Profile", one "collection" "Collection",
        ("vocabsByLevel", .annotated (.vocabsByLevel .texts)),
        ("isBookmarked", .annotated (.isBookmarked .texts))]),
    ("TextHistoryEntry", columns ["id", "timeViewed"] ++
      [one "text" "Text", one "pastViewer" "Profile"]),
    ("Vocab", columns ["id", "text", "isPhrase"] ++
      formulas ["learnersCount", "textsCount"] ++
      [one "language" "Language", many "meanings" "Meaning",
        narrowed "learnerMeanings" "Meaning" learnerMeanings]),
    ("Meaning", columns ["id", "text", "addedOn", "attribution"] ++
      formulas ["learnersCount"] ++
      [one "vocab" "Vocab", one "addedBy" "Profile", one "language" "Language"]),
    ("MapLearnerVocab", columns ["id", "level", "notes", "savedOn"] ++
      [one "vocab" "Vocab", one "learner" "Profile"]),
    ("MapLearnerLanguage", columns ["id", "startedLearningOn", "lastOpened"] ++
      [one "language" "Language", one "learner" "Profile"]),
    ("Dictionary", columns ["id", "name", "lookupLink", "dictionaryLink", "isPronunciation"] ++
      [one "language" "Language"])]

def registry : Registry :=
  sources.foldl (fun r s => r.register s.1 ⟨fun _ => EntityFields.ofPairs s.1 s.2, [], false⟩) .empty

end EntityViews.Learning
