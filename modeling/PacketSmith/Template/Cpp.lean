import PacketSmith.Template.Basic

/-!
# Templates of C++ headers

The header of a message declares its class and the coder of the class; the header of the manager
registers the coders of all messages and finds them by id.
-/

namespace PacketSmith.Template

/-- The header of a message. -/
def cppMessage : Template := ⟨"cpp.h.j2", [
  .line [.text "#ifndef GALALITH_", .slot "guard", .text "_H"],
  .line [.text "#define GALALITH_", .slot "guard", .text "_H"],
  .line [],
  .line [.text "#include \"", .slot "root", .text "/ByteBuffer.h\""],
  .block "includes" [[.slot "includes"]],
  .line [],
  .line [.text "namespace galalith \x7b"],
  .line [],
  .block "doc" [[.text "    ", .slot "doc"]],
  .line [.text "    class ", .slot "name", .text " : public IPacket \x7b"],
  .line [.text "    public:"],
  .block "fields" [[.text "        ", .slot "fields"], []],
  .line [.text "        ~", .slot "name", .text "() override = default;"],
  .line [],
  .line [.text "        static ", .slot "name", .text " valueOf(", .slot "value_of_params",
    .text ") \x7b"],
  .line [.text "            auto packet = ", .slot "name", .text "();"],
  .block "value_of_body" [[.text "            ", .slot "value_of_body"]],
  .line [.text "            return packet;"],
  .line [.text "        \x7d"],
  .line [],
  .line [.text "        int16_t protocolId() override \x7b"],
  .line [.text "            return ", .slot "protocol_id", .text ";"],
  .line [.text "        \x7d"],
  .line [],
  .line [.text "        bool operator<(const ", .slot "name", .text " &_) const \x7b"],
  .block "operator_body" [[.text "            ", .slot "operator_body"]],
  .line [.text "            return false;"],
  .line [.text "        \x7d"],
  .line [.text "    \x7d;"],
  .line [],
  .line [],
  .line [.text "    class ", .slot "name",
    .text "Registration : public IProtocolRegistration \x7b"],
  .line [.text "    public:"],
  .line [.text "        int16_t protocolId() override \x7b"],
  .line [.text "            return ", .slot "protocol_id", .text ";"],
  .line [.text "        \x7d"],
  .line [],
  .line [.text "        void write(ByteBuffer &buffer, IPacket *packet) override \x7b"],
  .line [.text "            if (buffer.writePacketFlag(packet)) \x7b"],
  .line [.text "                return;"],
  .line [.text "            \x7d"],
  .line [.text "            auto *message = (", .slot "name", .text " *) packet;"],
  .block "write_body" [[.text "            ", .slot "write_body"]],
  .line [.text "        \x7d"],
  .line [],
  .line [.text "        IPacket *read(ByteBuffer &buffer) override \x7b"],
  .line [.text "            auto *packet = new ", .slot "name", .text "();"],
  .line [.text "            if (!buffer.readBool()) \x7b"],
  .line [.text "                return packet;"],
  .line [.text "            \x7d"],
  .block "read_body" [[.text "            ", .slot "read_body"]],
  .line [.text "            return packet;"],
  .line [.text "        \x7d"],
  .line [.text "    \x7d;"],
  .line [.text "\x7d"],
  .line [],
  .line [.text "#endif"]]⟩

/-- The header of the manager. -/
def cppManager : Template := ⟨"cpp-manager.h.j2", [
  .line [.text "#ifndef GALALITH_PROTOCOLMANAGER_H"],
  .line [.text "#define GALALITH_PROTOCOLMANAGER_H"],
  .line [],
  .line [.text "#include \"", .slot "root", .text "/ByteBuffer.h\""],
  .block "includes" [[.slot "includes"]],
  .line [],
  .line [.text "namespace galalith \x7b"],
  .line [],
  .line [.text "    inline void initProtocol() \x7b"],
  .block "registrations" [[.text "        ", .slot "registrations"]],
  .line [.text "    \x7d"],
  .line [],
  .line [.text "    inline void write(ByteBuffer &buffer, IPacket *packet) \x7b"],
  .line [.text "        auto protocolId = packet->protocolId();"],
  .line [.text "        buffer.writeShort(protocolId);"],
  .line [.text "        getProtocol(protocolId)->write(buffer, packet);"],
  .line [.text "    \x7d"],
  .line [],
  .line [.text "    inline IPacket *read(ByteBuffer &buffer) \x7b"],
  .line [.text "        auto protocolId = buffer.readShort();"],
  .line [.text "        return getProtocol(protocolId)->read(buffer);"],
  .line [.text "    \x7d"],
  .line [.text "\x7d"],
  .line [],
  .line [.text "#endif"]]⟩

end PacketSmith.Template
