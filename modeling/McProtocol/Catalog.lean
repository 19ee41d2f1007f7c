import McProtocol.Registry

/-! # The packets a player sends

The serverbound lists of the play state, as the generated catalog has them. The position of
a name is the packet id.
-/

namespace McProtocol

def packetNames0PlayServerbound : List String :=
  ["keep_alive", "chat", "use_entity", "flying", "position", "look", "position_look", "block_dig",
    "block_place", "held_item_slot", "arm_animation", "entity_action", "steer_vehicle",
    "close_window", "window_click", "transaction", "set_creative_slot", "enchant_item",
    "update_sign", "abilities", "tab_complete", "settings", "client_command", "custom_payload"]

def packetNames1PlayServerbound : List String :=
  ["keep_alive", "chat", "use_entity", "flying", "position", "look", "position_look", "block_dig",
    "block_place", "held_item_slot", "arm_animation", "entity_action", "steer_vehicle",
    "close_window", "window_click", "transaction", "set_creative_slot", "enchant_item",
    "update_sign", "abilities", "tab_complete", "settings", "client_command", "custom_payload",
    "spectate", "resource_pack_receive"]

def packetNames2PlayServerbound : List String :=
  ["teleport_confirm", "tab_complete", "chat", "client_command", "settings", "transaction",
    "enchant_item", "window_click", "close_window", "custom_payload", "use_entity", "keep_alive",
    "position", "position_look", "look", "flying", "vehicle_move", "steer_boat", "abilities",
    "block_dig", "entity_action", "steer_vehicle", "resource_pack_receive", "held_item_slot",
    "set_creative_slot", "update_sign", "arm_animation", "spectate", "block_place", "use_item"]

def packetNames3PlayServerbound : List String :=
  ["teleport_confirm", "tab_complete", "chat", "client_command", "settings", "transaction",
    "enchant_item", "window_click", "close_window", "custom_payload", "use_entity", "keep_alive",
    "position", "position_look", "look", "flying", "vehicle_move", "steer_boat", "abilities",
    "block_dig", "entity_action", "steer_vehicle", "resource_pack_receive", "held_item_slot",
    "set_creative_slot", "update_sign", "arm_animation", "spectate", "block_place", "use_item"]

def packetNames4PlayServerbound : List String :=
  ["teleport_confirm", "prepare_crafting_grid", "tab_complete", "chat", "client_command",
    "settings", "transaction", "enchant_item", "window_click", "close_window", "custom_payload",
    "use_entity", "keep_alive", "flying", "position", "position_look", "look", "vehicle_move",
    "steer_boat", "abilities", "block_dig", "entity_action", "steer_vehicle", "crafting_book_data",
    "resource_pack_receive", "advancement_tab", "held_item_slot", "set_creative_slot",
    "update_sign", "arm_animation", "spectate", "block_place", "use_item"]

def packetNames5PlayServerbound : List String :=
  ["teleport_confirm", "tab_complete", "chat", "client_command", "settings", "transaction",
    "enchant_item", "window_click", "close_window", "custom_payload", "use_entity", "keep_alive",
    "flying", "position", "position_look", "look", "vehicle_move", "steer_boat",
    "craft_recipe_request", "abilities", "block_dig", "entity_action", "steer_vehicle",
    "crafting_book_data", "resource_pack_receive", "advancement_tab", "held_item_slot",
    "set_creative_slot", "update_sign", "arm_animation", "spectate", "block_place", "use_item"]

def packetNames6PlayServerbound : List String :=
  ["teleport_confirm", "query_block_nbt", "chat", "client_command", "settings", "tab_complete",
    "transaction", "enchant_item", "window_click", "close_window", "custom_payload", "edit_book",
    "query_entity_nbt", "use_entity", "keep_alive", "flying", "position", "position_look", "look",
    "vehicle_move", "steer_boat", "pick_item", "craft_recipe_request", "abilities", "block_dig",
    "entity_action", "steer_vehicle", "crafting_book_data", "name_item", "resource_pack_receive",
    "advancement_tab", "select_trade", "set_beacon_effect", "held_item_slot",
    "update_command_block", "update_command_block_minecart", "set_creative_slot",
    "update_structure_block", "update_sign", "arm_animation", "spectate", "block_place", "use_item"]

def packetNames7PlayServerbound : List String :=
  ["teleport_confirm", "query_block_nbt", "set_difficulty", "chat", "client_command", "settings",
    "tab_complete", "transaction", "enchant_item", "window_click", "close_window", "custom_payload",
    "edit_book", "query_entity_nbt", "use_entity", "keep_alive", "lock_difficulty", "position",
    "position_look", "look", "flying", "vehicle_move", "steer_boat", "pick_item",
    "craft_recipe_request", "abilities", "block_dig", "entity_action", "steer_vehicle",
    "crafting_book_data", "name_item", "resource_pack_receive", "advancement_tab", "select_trade",
    "set_beacon_effect", "held_item_slot", "update_command_block", "update_command_block_minecart",
    "set_creative_slot", "update_jigsaw_block", "update_structure_block", "update_sign",
    "arm_animation", "spectate", "block_place", "use_item"]

def packetNames8PlayServerbound : List String :=
  ["teleport_confirm", "query_block_nbt", "set_difficulty", "chat", "client_command", "settings",
    "tab_complete", "transaction", "enchant_item", "window_click", "close_window", "custom_payload",
    "edit_book", "query_entity_nbt", "use_entity", "keep_alive", "lock_difficulty", "position",
    "position_look", "look", "flying", "vehicle_move", "steer_boat", "pick_item",
    "craft_recipe_request", "abilities", "block_dig", "entity_action", "steer_vehicle",
    "crafting_book_data", "name_item", "resource_pack_receive", "advancement_tab", "select_trade",
    "set_beacon_effect", "held_item_slot", "update_command_block", "update_command_block_minecart",
    "set_creative_slot", "update_jigsaw_block", "update_structure_block", "update_sign",
    "arm_animation", "spectate", "block_place", "use_item"]

def packetNames9PlayServerbound : List String :=
  ["teleport_confirm", "query_block_nbt", "set_difficulty", "chat", "client_command", "settings",
    "tab_complete", "transaction", "enchant_item", "window_click", "close_window", "custom_payload",
    "edit_book", "query_entity_nbt", "use_entity", "keep_alive", "lock_difficulty", "position",
    "position_look", "look", "flying", "vehicle_move", "steer_boat", "pick_item",
    "craft_recipe_request", "abilities", "block_dig", "entity_action", "steer_vehicle",
    "crafting_book_data", "name_item", "resource_pack_receive", "advancement_tab", "select_trade",
    "set_beacon_effect", "held_item_slot", "update_command_block", "update_command_block_minecart",
    "set_creative_slot", "update_jigsaw_block", "update_structure_block", "update_sign",
    "arm_animation", "spectate", "block_place", "use_item"]

def packetNames10PlayServerbound : List String :=
  ["teleport_confirm", "query_block_nbt", "set_difficulty", "chat", "client_command", "settings",
    "tab_complete", "transaction", "enchant_item", "window_click", "close_window", "custom_payload",
    "edit_book", "query_entity_nbt", "use_entity", "generate_structure", "keep_alive",
    "lock_difficulty", "position", "position_look", "look", "flying", "vehicle_move", "steer_boat",
    "pick_item", "craft_recipe_request", "abilities", "block_dig", "entity_action", "steer_vehicle",
    "crafting_book_data", "name_item", "resource_pack_receive", "advancement_tab", "select_trade",
    "set_beacon_effect", "held_item_slot", "update_command_block", "update_command_block_minecart",
    "set_creative_slot", "update_jigsaw_block", "update_structure_block", "update_sign",
    "arm_animation", "spectate", "block_place", "use_item"]

def packetNames11PlayServerbound : List String :=
  ["teleport_confirm", "query_block_nbt", "set_difficulty", "chat", "client_command", "settings",
    "tab_complete", "transaction", "enchant_item", "window_click", "close_window", "custom_payload",
    "edit_book", "query_entity_nbt", "use_entity", "generate_structure", "keep_alive",
    "lock_difficulty", "position", "position_look", "look", "flying", "vehicle_move", "steer_boat",
    "pick_item", "craft_recipe_request", "abilities", "block_dig", "entity_action", "steer_vehicle",
    "recipe_book", "displayed_recipe", "name_item", "resource_pack_receive", "advancement_tab",
    "select_trade", "set_beacon_effect", "held_item_slot", "update_command_block",
    "update_command_block_minecart", "set_creative_slot", "update_jigsaw_block",
    "update_structure_block", "update_sign", "arm_animation", "spectate", "block_place", "use_item"]

def packetNames12PlayServerbound : List String :=
  ["teleport_confirm", "query_block_nbt", "set_difficulty", "chat", "client_command", "settings",
    "tab_complete", "enchant_item", "window_click", "close_window", "custom_payload", "edit_book",
    "query_entity_nbt", "use_entity", "generate_structure", "keep_alive", "lock_difficulty",
    "position", "position_look", "look", "flying", "vehicle_move", "steer_boat", "pick_item",
    "craft_recipe_request", "abilities", "block_dig", "entity_action", "steer_vehicle", "pong",
    "recipe_book", "displayed_recipe", "name_item", "resource_pack_receive", "advancement_tab",
    "select_trade", "set_beacon_effect", "held_item_slot", "update_command_block",
    "update_command_block_minecart", "set_creative_slot", "update_jigsaw_block",
    "update_structure_block", "update_sign", "arm_animation", "spectate", "block_place", "use_item"]

def packetNames13PlayServerbound : List String :=
  ["teleport_confirm", "query_block_nbt", "set_difficulty", "chat", "client_command", "settings",
    "tab_complete", "enchant_item", "window_click", "close_window", "custom_payload", "edit_book",
    "query_entity_nbt", "use_entity", "generate_structure", "keep_alive", "lock_difficulty",
    "position", "position_look", "look", "flying", "vehicle_move", "steer_boat", "pick_item",
    "craft_recipe_request", "abilities", "block_dig", "entity_action", "steer_vehicle", "pong",
    "recipe_book", "displayed_recipe", "name_item", "resource_pack_receive", "advancement_tab",
    "select_trade", "set_beacon_effect", "held_item_slot", "update_command_block",
    "update_command_block_minecart", "set_creative_slot", "update_jigsaw_block",
    "update_structure_block", "update_sign", "arm_animation", "spectate", "block_place", "use_item"]

def packetNames14PlayServerbound : List String :=
  ["teleport_confirm", "query_block_nbt", "set_difficulty", "chat", "client_command", "settings",
    "tab_complete", "enchant_item", "window_click", "close_window", "custom_payload", "edit_book",
    "query_entity_nbt", "use_entity", "generate_structure", "keep_alive", "lock_difficulty",
    "position", "position_look", "look", "flying", "vehicle_move", "steer_boat", "pick_item",
    "craft_recipe_request", "abilities", "block_dig", "entity_action", "steer_vehicle", "pong",
    "recipe_book", "displayed_recipe", "name_item", "resource_pack_receive", "advancement_tab",
    "select_trade", "set_beacon_effect", "held_item_slot", "update_command_block",
    "update_command_block_minecart", "set_creative_slot", "update_jigsaw_block",
    "update_structure_block", "update_sign", "arm_animation", "spectate", "block_place", "use_item"]

def packetNames15PlayServerbound : List String :=
  ["teleport_confirm", "query_block_nbt", "set_difficulty", "chat_command", "chat_message",
    "chat_preview", "client_command", "settings", "tab_complete", "enchant_item", "window_click",
    "close_window", "custom_payload", "edit_book", "query_entity_nbt", "use_entity",
    "generate_structure", "keep_alive", "lock_difficulty", "position", "position_look", "look",
    "flying", "vehicle_move", "steer_boat", "pick_item", "craft_recipe_request", "abilities",
    "block_dig", "entity_action", "steer_vehicle", "pong", "recipe_book", "displayed_recipe",
    "name_item", "resource_pack_receive", "advancement_tab", "select_trade", "set_beacon_effect",
    "held_item_slot", "update_command_block", "update_command_block_minecart", "set_creative_slot",
    "update_jigsaw_block", "update_structure_block", "update_sign", "arm_animation", "spectate",
    "block_place", "use_item"]

def packetNames16PlayServerbound : List String :=
  ["teleport_confirm", "query_block_nbt", "set_difficulty", "message_acknowledgement",
    "chat_command", "chat_message", "chat_preview", "client_command", "settings", "tab_complete",
    "enchant_item", "window_click", "close_window", "custom_payload", "edit_book",
    "query_entity_nbt", "use_entity", "generate_structure", "keep_alive", "lock_difficulty",
    "position", "position_look", "look", "flying", "vehicle_move", "steer_boat", "pick_item",
    "craft_recipe_request", "abilities", "block_dig", "entity_action", "steer_vehicle", "pong",
    "recipe_book", "displayed_recipe", "name_item", "resource_pack_receive", "advancement_tab",
    "select_trade", "set_beacon_effect", "held_item_slot", "update_command_block",
    "update_command_block_minecart", "set_creative_slot", "update_jigsaw_block",
    "update_structure_block", "update_sign", "arm_animation", "spectate", "block_place", "use_item"]

def packetNames17PlayServerbound : List String :=
  ["teleport_confirm", "query_block_nbt", "set_difficulty", "message_acknowledgement",
    "chat_command", "chat_message", "client_command", "settings", "tab_complete", "enchant_item",
    "window_click", "close_window", "custom_payload", "edit_book", "query_entity_nbt", "use_entity",
    "generate_structure", "keep_alive", "lock_difficulty", "position", "position_look", "look",
    "flying", "vehicle_move", "steer_boat", "pick_item", "craft_recipe_request", "abilities",
    "block_dig", "entity_action", "steer_vehicle", "pong", "chat_session_update", "recipe_book",
    "displayed_recipe", "name_item", "resource_pack_receive", "advancement_tab", "select_trade",
    "set_beacon_effect", "held_item_slot", "update_command_block", "update_command_block_minecart",
    "set_creative_slot", "update_jigsaw_block", "update_structure_block", "update_sign",
    "arm_animation", "spectate", "block_place", "use_item"]

def packetNames18PlayServerbound : List String :=
  ["teleport_confirm", "query_block_nbt", "set_difficulty", "message_acknowledgement",
    "chat_command", "chat_message", "chat_session_update", "client_command", "settings",
    "tab_complete", "enchant_item", "window_click", "close_window", "custom_payload", "edit_book",
    "query_entity_nbt", "use_entity", "generate_structure", "keep_alive", "lock_difficulty",
    "position", "position_look", "look", "flying", "vehicle_move", "steer_boat", "pick_item",
    "craft_recipe_request", "abilities", "block_dig", "entity_action", "steer_vehicle", "pong",
    "recipe_book", "displayed_recipe", "name_item", "resource_pack_receive", "advancement_tab",
    "select_trade", "set_beacon_effect", "held_item_slot", "update_command_block",
    "update_command_block_minecart", "set_creative_slot", "update_jigsaw_block",
    "update_structure_block", "update_sign", "arm_animation", "spectate", "block_place", "use_item"]

def packetNames19PlayServerbound : List String :=
  ["teleport_confirm", "query_block_nbt", "set_difficulty", "message_acknowledgement",
    "chat_command", "chat_message", "chat_session_update", "chunk_batch_received", "client_command",
    "settings", "tab_complete", "configuration_acknowledged", "enchant_item", "window_click",
    "close_window", "custom_payload", "edit_book", "query_entity_nbt", "use_entity",
    "generate_structure", "keep_alive", "lock_difficulty", "position", "position_look", "look",
    "flying", "vehicle_move", "steer_boat", "pick_item", "ping_request", "craft_recipe_request",
    "abilities", "block_dig", "entity_action", "steer_vehicle", "pong", "recipe_book",
    "displayed_recipe", "name_item", "resource_pack_receive", "advancement_tab", "select_trade",
    "set_beacon_effect", "held_item_slot", "update_command_block", "update_command_block_minecart",
    "set_creative_slot", "update_jigsaw_block", "update_structure_block", "update_sign",
    "arm_animation", "spectate", "block_place", "use_item"]

def packetNames20PlayServerbound : List String :=
  ["teleport_confirm", "query_block_nbt", "set_difficulty", "message_acknowledgement",
    "chat_command", "chat_message", "chat_session_update", "chunk_batch_received", "client_command",
    "settings", "tab_complete", "configuration_acknowledged", "enchant_item", "window_click",
    "close_window", "set_slot_state", "custom_payload", "edit_book", "query_entity_nbt",
    "use_entity", "generate_structure", "keep_alive", "lock_difficulty", "position",
    "position_look", "look", "flying", "vehicle_move", "steer_boat", "pick_item", "ping_request",
    "craft_recipe_request", "abilities", "block_dig", "entity_action", "steer_vehicle", "pong",
    "recipe_book", "displayed_recipe", "name_item", "resource_pack_receive", "advancement_tab",
    "select_trade", "set_beacon_effect", "held_item_slot", "update_command_block",
    "update_command_block_minecart", "set_creative_slot", "update_jigsaw_block",
    "update_structure_block", "update_sign", "arm_animation", "spectate", "block_place", "use_item"]

def packetNames21PlayServerbound : List String :=
  ["teleport_confirm", "query_block_nbt", "set_difficulty", "message_acknowledgement",
    "chat_command", "chat_command_signed", "chat_message", "chat_session_update",
    "chunk_batch_received", "client_command", "settings", "tab_complete",
    "configuration_acknowledged", "enchant_item", "window_click", "close_window", "set_slot_state",
    "cookie_response", "custom_payload", "debug_sample_subscription", "edit_book",
    "query_entity_nbt", "use_entity", "generate_structure", "keep_alive", "lock_difficulty",
    "position", "position_look", "look", "flying", "vehicle_move", "steer_boat", "pick_item",
    "ping_request", "craft_recipe_request", "abilities", "block_dig", "entity_action",
    "steer_vehicle", "pong", "recipe_book", "displayed_recipe", "name_item",
    "resource_pack_receive", "advancement_tab", "select_trade", "set_beacon_effect",
    "held_item_slot", "update_command_block", "update_command_block_minecart", "set_creative_slot",
    "update_jigsaw_block", "update_structure_block", "update_sign", "arm_animation", "spectate",
    "block_place", "use_item"]

def packetNames22PlayServerbound : List String :=
  ["teleport_confirm", "query_block_nbt", "set_difficulty", "message_acknowledgement",
    "chat_command", "chat_command_signed", "chat_message", "chat_session_update",
    "chunk_batch_received", "client_command", "settings", "tab_complete",
    "configuration_acknowledged", "enchant_item", "window_click", "close_window", "set_slot_state",
    "cookie_response", "custom_payload", "debug_sample_subscription", "edit_book",
    "query_entity_nbt", "use_entity", "generate_structure", "keep_alive", "lock_difficulty",
    "position", "position_look", "look", "flying", "vehicle_move", "steer_boat", "pick_item",
    "ping_request", "craft_recipe_request", "abilities", "block_dig", "entity_action",
    "steer_vehicle", "pong", "recipe_book", "displayed_recipe", "name_item",
    "resource_pack_receive", "advancement_tab", "select_trade", "set_beacon_effect",
    "held_item_slot", "update_command_block", "update_command_block_minecart", "set_creative_slot",
    "update_jigsaw_block", "update_structure_block", "update_sign", "arm_animation", "spectate",
    "block_place", "use_item"]

def packetNames23PlayServerbound : List String :=
  ["teleport_confirm", "query_block_nbt", "select_bundle_item", "set_difficulty",
    "message_acknowledgement", "chat_command", "chat_command_signed", "chat_message",
    "chat_session_update", "chunk_batch_received", "client_command", "tick_end", "settings",
    "tab_complete", "configuration_acknowledged", "enchant_item", "window_click", "close_window",
    "set_slot_state", "cookie_response", "custom_payload", "debug_sample_subscription", "edit_book",
    "query_entity_nbt", "use_entity", "generate_structure", "keep_alive", "lock_difficulty",
    "position", "position_look", "look", "flying", "vehicle_move", "steer_boat", "pick_item",
    "ping_request", "craft_recipe_request", "abilities", "block_dig", "entity_action",
    "player_input", "pong", "recipe_book", "displayed_recipe", "name_item", "resource_pack_receive",
    "advancement_tab", "select_trade", "set_beacon_effect", "held_item_slot",
    "update_command_block", "update_command_block_minecart", "set_creative_slot",
    "update_jigsaw_block", "update_structure_block", "update_sign", "arm_animation", "spectate",
    "block_place", "use_item"]

def packetNames24PlayServerbound : List String :=
  ["teleport_confirm", "query_block_nbt", "select_bundle_item", "set_difficulty",
    "message_acknowledgement", "chat_command", "chat_command_signed", "chat_message",
    "chat_session_update", "chunk_batch_received", "client_command", "tick_end", "settings",
    "tab_complete", "configuration_acknowledged", "enchant_item", "window_click", "close_window",
    "set_slot_state", "cookie_response", "custom_payload", "debug_sample_subscription", "edit_book",
    "query_entity_nbt", "use_entity", "generate_structure", "keep_alive", "lock_difficulty",
    "position", "position_look", "look", "flying", "vehicle_move", "steer_boat",
    "pick_item_from_block", "pick_item_from_entity", "ping_request", "craft_recipe_request",
    "abilities", "block_dig", "entity_action", "player_input", "player_loaded", "pong",
    "recipe_book", "displayed_recipe", "name_item", "resource_pack_receive", "advancement_tab",
    "select_trade", "set_beacon_effect", "held_item_slot", "update_command_block",
    "update_command_block_minecart", "set_creative_slot", "update_jigsaw_block",
    "update_structure_block", "update_sign", "arm_animation", "spectate", "block_place", "use_item"]

def packetNames25PlayServerbound : List String :=
  ["teleport_confirm", "query_block_nbt", "select_bundle_item", "set_difficulty",
    "message_acknowledgement", "chat_command", "chat_command_signed", "chat_message",
    "chat_session_update", "chunk_batch_received", "client_command", "tick_end", "settings",
    "tab_complete", "configuration_acknowledged", "enchant_item", "window_click", "close_window",
    "set_slot_state", "cookie_response", "custom_payload", "debug_sample_subscription", "edit_book",
    "query_entity_nbt", "use_entity", "generate_structure", "keep_alive", "lock_difficulty",
    "position", "position_look", "look", "flying", "vehicle_move", "steer_boat",
    "pick_item_from_block", "pick_item_from_entity", "ping_request", "craft_recipe_request",
    "abilities", "block_dig", "entity_action", "player_input", "player_loaded", "pong",
    "recipe_book", "displayed_recipe", "name_item", "resource_pack_receive", "advancement_tab",
    "select_trade", "set_beacon_effect", "held_item_slot", "update_command_block",
    "update_command_block_minecart", "set_creative_slot", "update_jigsaw_block",
    "update_structure_block", "set_test_block", "update_sign", "arm_animation", "spectate",
    "test_instance_block_action", "block_place", "use_item"]

def packetNames26PlayServerbound : List String :=
  ["teleport_confirm", "query_block_nbt", "select_bundle_item", "set_difficulty", "change_gamemode",
    "message_acknowledgement", "chat_command", "chat_command_signed", "chat_message",
    "chat_session_update", "chunk_batch_received", "client_command", "tick_end", "settings",
    "tab_complete", "configuration_acknowledged", "enchant_item", "window_click", "close_window",
    "set_slot_state", "cookie_response", "custom_payload", "debug_sample_subscription", "edit_book",
    "query_entity_nbt", "use_entity", "generate_structure", "keep_alive", "lock_difficulty",
    "position", "position_look", "look", "flying", "vehicle_move", "steer_boat",
    "pick_item_from_block", "pick_item_from_entity", "ping_request", "craft_recipe_request",
    "abilities", "block_dig", "entity_action", "player_input", "player_loaded", "pong",
    "recipe_book", "displayed_recipe", "name_item", "resource_pack_receive", "advancement_tab",
    "select_trade", "set_beacon_effect", "held_item_slot", "update_command_block",
    "update_command_block_minecart", "set_creative_slot", "update_jigsaw_block",
    "update_structure_block", "set_test_block", "update_sign", "arm_animation", "spectate",
    "test_instance_block_action", "block_place", "use_item", "custom_click_action"]

def packetNames27PlayServerbound : List String :=
  ["teleport_confirm", "query_block_nbt", "select_bundle_item", "set_difficulty", "change_gamemode",
    "message_acknowledgement", "chat_command", "chat_command_signed", "chat_message",
    "chat_session_update", "chunk_batch_received", "client_command", "tick_end", "settings",
    "tab_complete", "configuration_acknowledged", "enchant_item", "window_click", "close_window",
    "set_slot_state", "cookie_response", "custom_payload", "debug_subscription_request",
    "edit_book", "query_entity_nbt", "use_entity", "generate_structure", "keep_alive",
    "lock_difficulty", "position", "position_look", "look", "flying", "vehicle_move", "steer_boat",
    "pick_item_from_block", "pick_item_from_entity", "ping_request", "craft_recipe_request",
    "abilities", "block_dig", "entity_action", "player_input", "player_loaded", "pong",
    "recipe_book", "displayed_recipe", "name_item", "resource_pack_receive", "advancement_tab",
    "select_trade", "set_beacon_effect", "held_item_slot", "update_command_block",
    "update_command_block_minecart", "set_creative_slot", "update_jigsaw_block",
    "update_structure_block", "set_test_block", "update_sign", "arm_animation", "spectate",
    "test_instance_block_action", "block_place", "use_item", "custom_click_action"]

def packetNames28PlayServerbound : List String :=
  ["teleport_confirm", "attack", "query_block_nbt", "select_bundle_item", "set_difficulty",
    "change_gamemode", "message_acknowledgement", "chat_command", "chat_command_signed",
    "chat_message", "chat_session_update", "chunk_batch_received", "client_command", "tick_end",
    "settings", "tab_complete", "configuration_acknowledged", "enchant_item", "window_click",
    "close_window", "set_slot_state", "cookie_response", "custom_payload",
    "debug_subscription_request", "edit_book", "query_entity_nbt", "use_entity",
    "generate_structure", "keep_alive", "lock_difficulty", "position", "position_look", "look",
    "flying", "vehicle_move", "steer_boat", "pick_item_from_block", "pick_item_from_entity",
    "ping_request", "craft_recipe_request", "abilities", "block_dig", "entity_action",
    "player_input", "player_loaded", "pong", "recipe_book", "displayed_recipe", "name_item",
    "resource_pack_receive", "advancement_tab", "select_trade", "set_beacon_effect",
    "held_item_slot", "update_command_block", "update_command_block_minecart", "set_creative_slot",
    "set_game_rule", "update_jigsaw_block", "update_structure_block", "set_test_block",
    "update_sign", "spectate_entity", "arm_animation", "spectate", "test_instance_block_action",
    "block_place", "use_item", "custom_click_action"]

def packetNames29PlayServerbound : List String :=
  ["teleport_confirm", "attack", "query_block_nbt", "select_bundle_item", "set_difficulty",
    "change_gamemode", "message_acknowledgement", "chat_command", "chat_command_signed",
    "chat_message", "chat_session_update", "chunk_batch_received", "client_command", "tick_end",
    "settings", "tab_complete", "configuration_acknowledged", "enchant_item", "window_click",
    "close_window", "set_slot_state", "cookie_response", "custom_payload",
    "debug_subscription_request", "edit_book", "query_entity_nbt", "use_entity",
    "generate_structure", "keep_alive", "lock_difficulty", "position", "position_look", "look",
    "flying", "vehicle_move", "steer_boat", "pick_item_from_block", "pick_item_from_entity",
    "ping_request", "craft_recipe_request", "abilities", "block_dig", "entity_action",
    "player_input", "player_loaded", "pong", "recipe_book", "displayed_recipe", "name_item",
    "resource_pack_receive", "advancement_tab", "select_trade", "set_beacon_effect",
    "held_item_slot", "update_command_block", "update_command_block_minecart", "set_creative_slot",
    "set_game_rule", "update_jigsaw_block", "update_structure_block", "set_test_block",
    "update_sign", "spectator_action", "arm_animation", "spectate", "test_instance_block_action",
    "block_place", "use_item", "custom_click_action"]

def packetNames30PlayServerbound : List String :=
  ["teleport_confirm", "attack", "query_block_nbt", "select_bundle_item", "set_difficulty",
    "change_gamemode", "message_acknowledgement", "chat_command", "chat_command_signed",
    "chat_message", "chat_session_update", "chunk_batch_received", "client_command", "tick_end",
    "settings", "tab_complete", "configuration_acknowledged", "enchant_item", "window_click",
    "close_window", "set_slot_state", "cookie_response", "custom_payload",
    "debug_subscription_request", "edit_book", "query_entity_nbt", "use_entity",
    "generate_structure", "keep_alive", "lock_difficulty", "position", "position_look", "look",
    "flying", "vehicle_move", "steer_boat", "pick_item_from_block", "pick_item_from_entity",
    "ping_request", "craft_recipe_request", "abilities", "block_dig", "entity_action",
    "player_input", "player_loaded", "pong", "punch", "recipe_book", "displayed_recipe",
    "name_item", "resource_pack_receive", "advancement_tab", "select_trade", "set_beacon_effect",
    "held_item_slot", "update_command_block", "update_command_block_minecart", "set_creative_slot",
    "set_game_rule", "update_jigsaw_block", "update_structure_block", "set_test_block",
    "update_sign", "spectator_action", "spectate", "test_instance_block_action", "block_place",
    "use_item", "custom_click_action"]

/-- `packet_catalogs`, of which the list of packets that a player sends. -/
def playServerboundCatalogs : List (Int × List String) := [
  (4, packetNames0PlayServerbound), (5, packetNames0PlayServerbound),
  (47, packetNames1PlayServerbound), (107, packetNames2PlayServerbound),
  (108, packetNames2PlayServerbound), (109, packetNames2PlayServerbound),
  (110, packetNames3PlayServerbound), (210, packetNames3PlayServerbound),
  (315, packetNames3PlayServerbound), (316, packetNames3PlayServerbound),
  (335, packetNames4PlayServerbound), (338, packetNames5PlayServerbound),
  (340, packetNames5PlayServerbound), (393, packetNames6PlayServerbound),
  (401, packetNames6PlayServerbound), (404, packetNames6PlayServerbound),
  (477, packetNames7PlayServerbound), (480, packetNames7PlayServerbound),
  (485, packetNames7PlayServerbound), (490, packetNames7PlayServerbound),
  (498, packetNames8PlayServerbound), (573, packetNames9PlayServerbound),
  (575, packetNames9PlayServerbound), (578, packetNames9PlayServerbound),
  (735, packetNames10PlayServerbound), (736, packetNames10PlayServerbound),
  (751, packetNames11PlayServerbound), (753, packetNames11PlayServerbound),
  (754, packetNames11PlayServerbound), (755, packetNames12PlayServerbound),
  (756, packetNames13PlayServerbound), (757, packetNames14PlayServerbound),
  (758, packetNames14PlayServerbound), (759, packetNames15PlayServerbound),
  (760, packetNames16PlayServerbound), (761, packetNames17PlayServerbound),
  (762, packetNames18PlayServerbound), (763, packetNames18PlayServerbound),
  (764, packetNames19PlayServerbound), (765, packetNames20PlayServerbound),
  (766, packetNames21PlayServerbound), (767, packetNames22PlayServerbound),
  (768, packetNames23PlayServerbound), (769, packetNames24PlayServerbound),
  (770, packetNames25PlayServerbound), (771, packetNames26PlayServerbound),
  (772, packetNames26PlayServerbound), (773, packetNames27PlayServerbound),
  (774, packetNames27PlayServerbound), (775, packetNames28PlayServerbound),
  (776, packetNames29PlayServerbound), (777, packetNames30PlayServerbound)]

/-- The generated catalog. Of the lists of other states, and of what a server sends, nothing
is said: they are those of `others`. -/
def packetCatalog (others : McPacketCatalog) : McPacketCatalog where
  names protocol state direction :=
    if state = .play ∧ direction = .serverbound then
      (playServerboundCatalogs.lookup protocol).getD []
    else others.names protocol state direction

/-- The packet a player attacks with has its own id since 775. -/
def attackPacket (protocol : Int) : String := if 775 ≤ protocol then "attack" else "use_entity"

namespace McPacketCatalog

variable {catalog : McPacketCatalog} {protocol : Int} {state : McState}
  {direction : McPacketDirection} {name : String}

/-- The id of a listed name is a name's position. -/
theorem mcPacketName_mcPacketId (supported : mcProtocolSupported protocol = true)
    (connected : state ≠ .disconnected) (listed : name ∈ catalog.names protocol state direction) :
    catalog.mcPacketName protocol state direction
      (catalog.mcPacketId protocol state direction name) = some name := by
  have map : catalog.packetMap protocol state direction =
      some (catalog.names protocol state direction) := if_pos ⟨supported, connected⟩
  obtain ⟨index, found⟩ : ∃ index, (catalog.names protocol state direction).findIdx? (· = name) =
      some index := by
    rw [← Option.isSome_iff_exists, List.findIdx?_isSome, List.any_eq_true]
    exact ⟨name, listed, decide_eq_true rfl⟩
  obtain ⟨inside, here, _⟩ := List.findIdx?_eq_some_iff_getElem.mp found
  rw [mcPacketId, mcPacketName, map]
  simp only [found]
  rw [if_neg (by omega), Int.toNat_natCast, List.getElem?_eq_getElem inside]
  exact congrArg some (of_decide_eq_true here)

end McPacketCatalog

section listed

variable {others : McPacketCatalog} {protocol : Int}

/-- The packets of movement, actions and attacks, which every release lists. -/
def lastingPackets (protocol : Int) : List String :=
  ["position_look", "entity_action", attackPacket protocol, "block_dig", "block_place",
    "window_click"]

theorem packetCatalog_listed (supported : mcProtocolSupported protocol = true) {name : String}
    (wanted : name ∈ lastingPackets protocol) :
    name ∈ (packetCatalog others).names protocol .play .serverbound := by
  have every : ∀ profile ∈ profiles, ∀ name ∈ lastingPackets profile.protocol,
      name ∈ (playServerboundCatalogs.lookup profile.protocol).getD [] := by decide +kernel
  exact of_supported
    (P := fun protocol => ∀ name ∈ lastingPackets protocol,
      name ∈ (playServerboundCatalogs.lookup protocol).getD []) every supported name wanted

/-- Teleports are confirmed by a packet of their own since 107. -/
theorem packetCatalog_teleportConfirm (supported : mcProtocolSupported protocol = true)
    (confirmed : 107 ≤ protocol) :
    "teleport_confirm" ∈ (packetCatalog others).names protocol .play .serverbound := by
  have every : ∀ profile ∈ profiles, 107 ≤ profile.protocol →
      "teleport_confirm" ∈ (playServerboundCatalogs.lookup profile.protocol).getD [] := by
    decide +kernel
  exact of_supported (P := fun protocol => 107 ≤ protocol →
    "teleport_confirm" ∈ (playServerboundCatalogs.lookup protocol).getD []) every supported
      confirmed

end listed

end McProtocol
