/-! The configuration file that new users start from. -/

namespace Concordance.Console

def exampleConfig : String := "# corpus-query configuration
#
# Location: ~/.config/corpus-query/config.toml

[backend]
# Base URL of the BlackLab Server web service
url = \"http://localhost:8080/blacklab-server\"
# Corpus to search
# corpus = \"opensonar\"
# Seconds before a request is given up
timeout = 30

[interface]
# Path of the search page; result views are appended (/hits, /docs)
base_path = \"/corpus-frontend/opensonar/search\"
# Annotation searched by the simple view (default: first visible annotation)
# primary_annotation = \"word\"
# Annotations shown in the extended view (default: all visible annotations)
# extended_annotations = [\"word\", \"lemma\", \"pos\"]
# Whether the query builder view is available
advanced_enabled = true
# Largest n-gram the explore view builds
ngram_max_size = 5
# URLs longer than this are stored without the pattern
max_url_length = 4000

[polling]
# Seconds between totals requests while the backend is still counting
interval = 1.0
# Seconds a filter must stay unchanged before the sub-corpus size is requested
debounce = 1.0

[history]
# database = \"~/.local/share/corpus-query/history.sqlite\"
max_entries = 100

[display]
colored_output = true

# Corpus metadata. Annotation kinds: text, combobox, select, pos.
[annotations.word]
display_name = \"Word\"
kind = \"text\"

[annotations.lemma]
display_name = \"Lemma\"
kind = \"text\"

[annotations.pos]
display_name = \"Part of speech\"
kind = \"pos\"

[annotations.punct]
internal = true

# Metadata fields. Kinds: text, combobox, select, checkbox, radio, range.
[fields.title]
display_name = \"Title\"
kind = \"text\"

[fields.genre]
display_name = \"Genre\"
kind = \"select\"

[fields.year]
display_name = \"Year\"
kind = \"range\"

[corpus]
documents = 0
tokens = 0
"

end Concordance.Console
