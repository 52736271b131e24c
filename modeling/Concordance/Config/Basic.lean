import Concordance.FilePath
import Concordance.Link.Encode

/-! What a user can configure: the backend and its corpus, the search page, how results are
followed, and where past searches are kept. -/

namespace Concordance

/-- Times are in seconds. The corpus and the options of the interface belong to the site. -/
structure Config where
  backendUrl : String
  corpusId : Option String
  timeout : Binary64
  site : Site
  pollInterval : Binary64
  debounce : Binary64
  historyPath : FilePath
  historyEntries : Int
  colored : Bool
  deriving DecidableEq, Repr

namespace Config

def second : Binary64 := .ofNat 1

def defaultSite : Site :=
  ⟨⟨.empty, none, [], true, 5⟩, "/corpus-frontend/search", 4000⟩

def configParts : List String := [".config", "corpus-query", "config.toml"]

def historyParts : List String := [".local", "share", "corpus-query", "history.sqlite"]

def initial (home : FilePath) : Config :=
  { backendUrl := "http://localhost:8080/blacklab-server"
    corpusId := none
    timeout := .ofNat 30
    site := defaultSite
    pollInterval := second
    debounce := second
    historyPath := home.append historyParts
    historyEntries := 100
    colored := true }

def settings (c : Config) : Settings := c.site.settings

def corpus (c : Config) : Corpus := c.settings.corpus

/-- Equal in every part; a time that is no number equals nothing. -/
def same (a b : Config) : Bool :=
  decide (a = b) && a.timeout.same a.timeout && a.pollInterval.same a.pollInterval &&
    a.debounce.same a.debounce

end Config

end Concordance
